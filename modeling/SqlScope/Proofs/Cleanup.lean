import SqlScope.Proofs.Elementary
import SqlScope.Proofs.Plan

set_option autoImplicit false

namespace SqlScope

open SqlScope.Action

variable {α β : Type}

inductive Deed where
  | close (x : Closable)
  | closeConnection (c : Connection)
  | rollback (c : Connection)
  | openCursor (c : Connection)
  | execute (q : RawCursor) (sql : String)

abbrev Journal := List (Deed × Option Failure)

def Journal.failed (j : Journal) : Nat := j.countP fun entry => entry.2.isSome

inductive Duty where
  | close (x : Closable)
  | rollBack (c : Connection)
  | rollBackTo (c : Connection) (name : String)
  | leaveScope (s : Session)
  | undo (c : Connection)
  | release (s : Session) (c : Connection)

-- Which deeds a duty consists of. Only a cursor that could be opened is used and closed.
inductive Duty.Done : Duty → Journal → Prop where
  | close {x : Closable} {failed : Option Failure} : Done (.close x) [(.close x, failed)]
  | rollBack {c : Connection} {failed : Option Failure} : Done (.rollBack c) [(.rollback c, failed)]
  | refused {c : Connection} {name : String} {f : Failure} : Done (.rollBackTo c name) [(.openCursor c, some f)]
  | rollBackTo {c : Connection} {name : String} {q : RawCursor} {failed failed' : Option Failure} :
      Done (.rollBackTo c name) [(.openCursor c, none), (.execute q ("ROLLBACK TO SAVEPOINT " ++ name), failed),
        (.close (.cursor q), failed')]
  | leaveScope {s : Session} : Done (.leaveScope s) []
  | undo {c : Connection} {failed : Option Failure} : Done (.undo c) [(.rollback c, failed)]
  | release {s : Session} {c : Connection} {failed : Option Failure} :
      Done (.release s c) [(.closeConnection c, failed)]

inductive Fulfilled : List Duty → Journal → Prop where
  | nil : Fulfilled [] []
  | cons {d : Duty} {rest : List Duty} {j k : Journal} (done : d.Done j) (more : Fulfilled rest k) :
      Fulfilled (d :: rest) (j ++ k)

def tried (a : Action α) : Action (Except Failure α) := do
  match ← outcome a with
  | .ok v => pure (.ok v)
  | .error f => if f.isOrdinary then pure (.error f) else throw f

def quietly (complain : Failure → Action Unit) (a : Action Unit) : Action (Option Failure) := do
  match ← tried a with
  | .ok _ => pure none
  | .error f =>
    complain f
    pure (some f)

def unwindingWarning (what : String) (f : Failure) : Action Unit :=
  warn .resources ("Failed to close " ++ what ++ " while unwinding: " ++ f.text)

def rollbackWarning (f : Failure) : Action Unit :=
  warn .commands ("Rollback failed after transaction error: " ++ f.text)

def closeExecuted (c : Connection) (name : String) (q : RawCursor) : Action Journal := do
  let sql := "ROLLBACK TO SAVEPOINT " ++ name
  match ← tried q.close with
  | .ok _ =>
    debug .commands ("Rolled back to savepoint " ++ name)
    pure [(.openCursor c, none), (.execute q sql, none), (.close (.cursor q), none)]
  | .error f =>
    rollbackWarning (if f.isLayer then f else f.wrap .execution "Failed to close cursor")
    pure [(.openCursor c, none), (.execute q sql, none), (.close (.cursor q), some f)]

def closeRefused (c : Connection) (name : String) (q : RawCursor) (f : Failure) : Action Journal := do
  let failed ← quietly (unwindingWarning "cursor") q.close
  rollbackWarning f
  pure [(.openCursor c, none), (.execute q ("ROLLBACK TO SAVEPOINT " ++ name), some f), (.close (.cursor q), failed)]

namespace Duty

def perform : Duty → Action Journal
  | close x => return [(.close x, ← quietly (unwindingWarning x.label) x.close)]
  | rollBack c =>
    return [(.rollback c, ← quietly rollbackWarning do
      c.rollback
      debug .commands "Rolled back transaction")]
  | rollBackTo c name => do
    match ← tried c.openCursor with
    | .error f =>
      rollbackWarning f
      pure [(.openCursor c, some f)]
    | .ok q =>
      match ← tried (q.execute ("ROLLBACK TO SAVEPOINT " ++ name) none) with
      | .ok _ => closeExecuted c name q
      | .error f => closeRefused c name q f
  | leaveScope s => do
    s.setScope false
    pure []
  | undo c =>
    return [(.rollback c, ← quietly (fun f => warn .session ("Rollback after failed write failed: " ++ f.text)) c.rollback)]
  | release s c => do
    s.update fun t => { t with binding := none }
    return [(.closeConnection c, ← quietly (unwindingWarning "connection") c.close)]

def leaves : Duty → Table SessionState → Table SessionState
  | leaveScope s, t => t.put s.index { t.get s.index with inTransaction := false }
  | release s _, t => t.put s.index { t.get s.index with binding := none }
  | _, t => t

def action : Duty → Action Unit
  | close x => closeAfterFailure x.close x.label
  | rollBack c => Transaction.rollBackAfterFailure c none
  | rollBackTo c name => Transaction.rollBackAfterFailure c (some name)
  | leaveScope s => s.setScope false
  | undo c => onOrdinary c.rollback fun f => warn .session ("Rollback after failed write failed: " ++ f.text)
  | release s c => do
    s.update fun t => { t with binding := none }
    closeAfterFailure c.close "connection"

end Duty

def perform : List Duty → Action Journal
  | [] => pure []
  | d :: rest => do
    let j ← d.perform
    let k ← perform rest
    pure (j ++ k)

-- A connection that is no longer bound is not closed, and inside a transaction scope no write is undone.
def Frame.owes : Frame → Failure → Table SessionState → Option Duty
  | closing x, _, _ => some (.close x)
  | beginning, _, _ => none
  | rollingBack c none, e, _ => if e.isOrdinary then some (.rollBack c) else none
  | rollingBack c (some name), e, _ => if e.isOrdinary then some (.rollBackTo c name) else none
  | leavingScope s, _, _ => some (.leaveScope s)
  | undoing s c, _, t => if (t.get s.index).inTransaction then none else some (.undo c)
  | releasing s c, _, t => if (t.get s.index).binding = some c then some (.release s c) else none

def owed : List Frame → Failure → Table SessionState → List Duty
  | [], _, _ => []
  | frame :: rest, e, t =>
    match frame.owes e t with
    | none => owed rest (frame.passes e) t
    | some d => d :: owed rest (frame.passes e) (d.leaves t)

def passed : List Frame → Failure → Failure
  | [], e => e
  | frame :: rest, e => passed rest (frame.passes e)

def Event.isWarning : Event → Bool
  | .log _ .warning _ => true
  | _ => false

def World.warnings (w : World) : Nat := w.history.countP Event.isWarning

structure Hushed (w w' : World) : Prop where
  sessions : w'.sessions = w.sessions
  warnings : w'.warnings = w.warnings

def hushed : Law where
  inv _ := True
  rel := Hushed
  refl _ := ⟨rfl, rfl⟩
  trans _ _ _ first second :=
    ⟨second.sessions.trans first.sessions, second.warnings.trans first.warnings⟩

theorem hushed_note {e : Event} (plain : e.isWarning = false) : hushed.Kept (note e) :=
  kept_modify fun w _ => ⟨trivial, rfl, by rw [World.warnings, List.countP_cons_of_neg (by rw [plain]; decide)]; rfl⟩

theorem hushed_aside {f : World → World} (sessions : ∀ w, (f w).sessions = w.sessions)
    (history : ∀ w, (f w).history = w.history) : hushed.Kept (modify f : Action Unit) :=
  kept_modify fun w _ => ⟨trivial, sessions w, by rw [World.warnings, World.warnings, history]⟩

theorem hushed_allows_work : hushed.AllowsWork fun _ => True where
  call _ _ _ := hushed_note rfl
  debug _ _ := hushed_note rfl
  fresh := kept_get_bind fun _ _ => ⟨trivial, rfl, rfl⟩
  connection _ _ _ := hushed_aside (fun _ => rfl) fun _ => rfl
  proxy _ _ := hushed_aside (fun _ => rfl) fun _ => rfl
  pool _ := hushed_aside (fun _ => rfl) fun _ => rfl
  statement _ _ _ := hushed_aside (fun _ => rfl) fun _ => rfl
  rowCursor _ _ := hushed_aside (fun _ => rfl) fun _ => rfl

theorem Closable.close_hushed (x : Closable) : hushed.Kept x.close := by
  cases x with
  | results r => exact r.close_allowed hushed_allows_work
  | statement t => exact t.close_allowed hushed_allows_work (hushed_aside (fun _ => rfl) fun _ => rfl)
  | cursor q => exact q.close_allowed hushed_allows_work

variable {u v w : World}

def Complains (complain : Failure → Action Unit) : Prop :=
  ∀ f w, ∃ w', complain f w = .ok () w' ∧ w'.sessions = w.sessions ∧ w'.warnings = w.warnings + 1

theorem warn_complains (channel : Channel) (text : Failure → String) : Complains fun f => warn channel (text f) :=
  fun _ _ => ⟨_, rfl, rfl, List.countP_cons_of_pos rfl⟩

theorem rollback_complains : Complains rollbackWarning := warn_complains _ _

theorem unwinding_complains (what : String) : Complains (unwindingWarning what) := warn_complains _ _

theorem tried_cases {a : Action α} (kept : hushed.Kept a) (u : World) :
    (∃ x v, a u = .ok x v ∧ tried a u = .ok (.ok x) v ∧ Hushed u v) ∨
    (∃ f v, a u = .error f v ∧ f.isOrdinary = true ∧ tried a u = .ok (.error f) v ∧ Hushed u v) ∨
    (∃ f v, a u = .error f v ∧ f.isOrdinary = false ∧ tried a u = .error f v) := by
  have quiet := (kept u trivial).2
  cases ran : a u with
  | ok x v =>
      rw [after_of_ok ran] at quiet
      exact Or.inl ⟨x, v, rfl, bind_of_ok (outcome_of_ok ran), quiet⟩
  | error f v =>
      rw [after_of_error ran] at quiet
      cases ordinary : f.isOrdinary with
      | true =>
          refine Or.inr (Or.inl ⟨f, v, rfl, ordinary, ?_, quiet⟩)
          rw [tried, bind_of_ok (outcome_of_error ran)]
          simp only [ordinary, if_true]
          rfl
      | false =>
          refine Or.inr (Or.inr ⟨f, v, rfl, ordinary, ?_⟩)
          rw [tried, bind_of_ok (outcome_of_error ran)]
          simp only [ordinary, Bool.false_eq_true, if_false]
          rfl

theorem quietly_ends {complain : Failure → Action Unit} {a : Action Unit} (complains : Complains complain)
    (kept : hushed.Kept a) (u : World) :
    (quietly complain a).Ends u
      (fun failed v => onOrdinary a complain u = .ok () v ∧ v.sessions = u.sessions ∧
        v.warnings = u.warnings + if failed.isSome then 1 else 0)
      fun g _ => g.isOrdinary = false := by
  rcases tried_cases kept u with ⟨_, v, ran, found, quiet⟩ | ⟨f, v, failed, ordinary, found, quiet⟩ | ⟨f, v, _, stop, found⟩
  · rw [Ends, quietly, bind_of_ok found]
    exact ⟨on_ordinary_of_ok ran, quiet.sessions, quiet.warnings⟩
  · obtain ⟨v', said, sessions, warnings⟩ := complains f v
    rw [Ends, quietly, bind_of_ok found]
    simp only [bind_of_ok said]
    refine ⟨?_, sessions.trans quiet.sessions, ?_⟩
    · rw [on_ordinary_of_error failed, if_pos ordinary]
      exact said
    · rw [warnings, quiet.warnings]
      rfl
  · rw [Ends, quietly, bind_of_error found]
    exact stop

structure Duty.Performed (d : Duty) (u : World) (j : Journal) (v : World) : Prop where
  run : d.action u = .ok () v
  done : d.Done j
  sessions : v.sessions = d.leaves u.sessions
  warnings : v.warnings = u.warnings + j.failed

theorem failed_single (d : Deed) (failed : Option Failure) :
    Journal.failed [(d, failed)] = if failed.isSome then 1 else 0 := by
  cases failed <;> rfl

theorem single_performed {d : Duty} {deed : Deed} {complain : Failure → Action Unit} {a : Action Unit}
    (complains : Complains complain) (kept : hushed.Kept a) (asks : d.action = onOrdinary a complain)
    (keeps : ∀ t, d.leaves t = t) (done : ∀ failed, d.Done [(deed, failed)]) (u : World) :
    (do return [(deed, ← quietly complain a)] : Action Journal).Ends u (d.Performed u) fun g _ => g.isOrdinary = false := by
  refine ends_bind (ends_mono (quietly_ends complains kept u) (fun failed v performed => ?_) fun _ _ => id)
  obtain ⟨run, sessions, warnings⟩ := performed
  refine ends_pure ⟨by rw [asks, run], done failed, by rw [keeps, sessions], ?_⟩
  rw [failed_single, warnings]

theorem roll_back_to_of_error {c : Connection} {name : String} {f : Failure}
    (failed : Transaction.runSql c ("ROLLBACK TO SAVEPOINT " ++ name) u = .error f v) (ordinary : f.isOrdinary = true) :
    (Duty.rollBackTo c name).action u = rollbackWarning f v := by
  have raised : Transaction.rollBack c (some name) u = .error f v := bind_of_error failed
  change onOrdinary (Transaction.rollBack c (some name)) rollbackWarning u = _
  rw [on_ordinary_of_error raised, if_pos ordinary]

theorem roll_back_to_of_ok {c : Connection} {name : String}
    (ran : Transaction.runSql c ("ROLLBACK TO SAVEPOINT " ++ name) u = .ok () v) :
    (Duty.rollBackTo c name).action u = debug .commands ("Rolled back to savepoint " ++ name) v :=
  on_ordinary_of_ok (bind_of_ok ran)

theorem wrapped_ordinary {f : Failure} (ordinary : f.isOrdinary = true) (message : String) :
    (if f.isLayer then f else f.wrap .execution message).isOrdinary = true := by
  split
  · exact ordinary
  · rfl

section

variable {c : Connection} {name : String} {q : RawCursor}

theorem run_sql_of_error {sql : String} {f : Failure} (opened : c.openCursor u = .ok q v)
    (failed : q.execute sql none v = .error f w) :
    Transaction.runSql c sql u = (closeAfterFailure q.close "cursor" >>= fun _ => throw f) w := by
  rw [Transaction.runSql, bind_of_ok opened, releasing, bind_of_ok (outcome_of_error failed)]

theorem run_sql_of_ok {sql : String} (opened : c.openCursor u = .ok q v) (executed : q.execute sql none v = .ok () w) :
    Transaction.runSql c sql u = wrapping .execution "Failed to close cursor" q.close w := by
  rw [Transaction.runSql, bind_of_ok opened, releasing, bind_of_ok (outcome_of_ok executed)]
  exact congrFun (bind_pure _) w

theorem close_executed_performed (before : Hushed u w)
    (whole : Transaction.runSql c ("ROLLBACK TO SAVEPOINT " ++ name) u =
      wrapping .execution "Failed to close cursor" q.close w) :
    (closeExecuted c name q).Ends w ((Duty.rollBackTo c name).Performed u) fun g _ => g.isOrdinary = false := by
  rw [Ends, closeExecuted]
  rcases tried_cases (q.close_allowed hushed_allows_work) w with
    ⟨_, v, closed, found, quiet⟩ | ⟨f, v, failed, ordinary, found, quiet⟩ | ⟨f, v, _, stop, found⟩
  · rw [bind_of_ok found]
    have said := hushed_note (e := .log .commands .debug ("Rolled back to savepoint " ++ name)) rfl v trivial
    have steps := hushed.trans _ _ _ before (hushed.trans _ _ _ quiet said.2)
    exact ⟨roll_back_to_of_ok (whole.trans (on_ordinary_of_ok closed)), .rollBackTo, steps.sessions, steps.warnings⟩
  · obtain ⟨v', said, sessions, warnings⟩ :=
      rollback_complains (if f.isLayer then f else f.wrap .execution "Failed to close cursor") v
    rw [bind_of_ok found]
    simp only [bind_of_ok said]
    have raised := whole.trans (on_ordinary_of_error failed)
    rw [if_pos ordinary] at raised
    have steps := hushed.trans _ _ _ before quiet
    refine ⟨?_, .rollBackTo, sessions.trans steps.sessions, warnings.trans (congrArg (· + 1) steps.warnings)⟩
    exact (roll_back_to_of_error raised (wrapped_ordinary ordinary _)).trans said
  · rw [bind_of_error found]
    exact stop

theorem close_refused_performed {f : Failure} (before : Hushed u w) (ordinary : f.isOrdinary = true)
    (whole : Transaction.runSql c ("ROLLBACK TO SAVEPOINT " ++ name) u =
      (closeAfterFailure q.close "cursor" >>= fun _ => throw f) w) :
    (closeRefused c name q f).Ends w ((Duty.rollBackTo c name).Performed u) fun g _ => g.isOrdinary = false := by
  have close := quietly_ends (unwinding_complains "cursor") (q.close_allowed hushed_allows_work) w
  refine ends_bind (ends_mono close (fun failed v closed => ?_) fun _ _ => id)
  obtain ⟨closes, sessions, warnings⟩ := closed
  obtain ⟨v', said, sessions', warnings'⟩ := rollback_complains f v
  rw [Ends, bind_of_ok said]
  refine ⟨?_, .rollBackTo, sessions'.trans (sessions.trans before.sessions), ?_⟩
  · exact (roll_back_to_of_error (whole.trans (bind_of_ok closes)) ordinary).trans said
  · rw [warnings', warnings, before.warnings]
    cases failed <;> rfl

theorem roll_back_to_performed (c : Connection) (name : String) (u : World) :
    (Duty.rollBackTo c name).perform.Ends u ((Duty.rollBackTo c name).Performed u) fun g _ => g.isOrdinary = false := by
  have opens : hushed.Kept c.openCursor :=
    c.open_cursor_allowed hushed_allows_work fun _ => hushed_aside (fun _ => rfl) fun _ => rfl
  rw [Ends, Duty.perform]
  rcases tried_cases opens u with ⟨q, v, opened, found, quiet⟩ | ⟨f, v, failed, ordinary, found, quiet⟩ | ⟨f, v, _, stop, found⟩
  · have executes : hushed.Kept (q.execute ("ROLLBACK TO SAVEPOINT " ++ name) none) :=
      q.execute_allowed hushed_allows_work trivial _ _
    rw [bind_of_ok found]
    dsimp only
    rcases tried_cases executes v with
      ⟨_, v₁, ran, found, quiet₁⟩ | ⟨f, v₁, failed, ordinary, found, quiet₁⟩ | ⟨f, v₁, _, stop, found⟩
    · rw [bind_of_ok found]
      exact close_executed_performed (hushed.trans _ _ _ quiet quiet₁) (run_sql_of_ok opened ran)
    · rw [bind_of_ok found]
      exact close_refused_performed (hushed.trans _ _ _ quiet quiet₁) ordinary (run_sql_of_error opened failed)
    · rw [bind_of_error found]
      exact stop
  · obtain ⟨v', said, sessions, warnings⟩ := rollback_complains f v
    rw [bind_of_ok found]
    simp only [bind_of_ok said]
    refine ⟨?_, .refused, sessions.trans quiet.sessions, warnings.trans (congrArg (· + 1) quiet.warnings)⟩
    exact (roll_back_to_of_error (bind_of_error failed) ordinary).trans said
  · rw [bind_of_error found]
    exact stop

end

theorem duty_performed (d : Duty) (u : World) : d.perform.Ends u (d.Performed u) fun g _ => g.isOrdinary = false := by
  cases d with
  | close x => exact single_performed (unwinding_complains x.label) x.close_hushed rfl (fun _ => rfl) (fun _ => .close) u
  | rollBack c =>
      have rolls : hushed.Kept (c.rollback >>= fun _ => debug .commands "Rolled back transaction") :=
        kept_bind (c.rollback_allowed hushed_allows_work) fun _ => hushed_note rfl
      exact single_performed rollback_complains rolls rfl (fun _ => rfl) (fun _ => .rollBack) u
  | rollBackTo c name => exact roll_back_to_performed c name u
  | leaveScope s => exact ⟨rfl, .leaveScope, rfl, rfl⟩
  | undo c =>
      exact single_performed (warn_complains _ _) (c.rollback_allowed hushed_allows_work) rfl (fun _ => rfl) (fun _ => .undo) u
  | release s c =>
      let u₁ := { u with sessions := u.sessions.put s.index { u.sessions.get s.index with binding := none } }
      have close := quietly_ends (unwinding_complains "connection") (c.close_allowed hushed_allows_work) u₁
      change Ends (do
        return [(Deed.closeConnection c, ← quietly (unwindingWarning "connection") c.close)] : Action Journal) u₁ _ _
      refine ends_bind (ends_mono close (fun failed v closed => ?_) fun _ _ => id)
      obtain ⟨run, sessions, warnings⟩ := closed
      refine ends_pure ⟨run, .release, sessions, ?_⟩
      rw [failed_single, warnings]
      rfl

theorem clean_up_of_owes (frame : Frame) (e : Failure) (u : World) :
    frame.cleanUp e u = (match frame.owes e u.sessions with
      | none => pure ()
      | some d => d.action) u := by
  cases frame with
  | closing x => rfl
  | beginning => rfl
  | rollingBack c name =>
      cases name <;> by_cases ordinary : e.isOrdinary <;>
        simp only [Frame.cleanUp, Frame.owes, ordinary, if_true, Bool.false_eq_true, if_false] <;> rfl
  | leavingScope s => rfl
  | undoing s c =>
      change (if (u.sessions.get s.index).inTransaction then pure () else _ : Action Unit) u = _
      cases inside : (u.sessions.get s.index).inTransaction with
      | true => simp only [Frame.owes, inside, if_true]
      | false =>
          simp only [Frame.owes, inside, Bool.false_eq_true, if_false]
          rfl
  | releasing s c =>
      by_cases bound : (u.sessions.get s.index).binding = some c
      · simp only [Frame.owes, if_pos bound]
        exact bind_of_ok (let_go_of_bound bound)
      · simp only [Frame.owes, if_neg bound]
        exact bind_of_ok (let_go_of_other bound)

theorem failed_append (j k : Journal) : (j ++ k).failed = j.failed + k.failed := List.countP_append

theorem unwinding_performed (frames : List Frame) (e : Failure) (u : World) :
    (perform (owed frames e u.sessions)).Ends u
      (fun j v => (unwind frames e : Action α) u = .error (passed frames e) v ∧
        Fulfilled (owed frames e u.sessions) j ∧ v.warnings = u.warnings + j.failed)
      fun g _ => g.isOrdinary = false := by
  induction frames generalizing e u with
  | nil => exact ends_pure ⟨rfl, .nil, rfl⟩
  | cons frame rest ih =>
      have cleans := clean_up_of_owes frame e u
      cases owes : frame.owes e u.sessions with
      | none =>
          rw [owes] at cleans
          simp only [owed, owes]
          refine ends_mono (ih (frame.passes e) u) (fun j v done => ?_) fun _ _ => id
          refine ⟨?_, done.2⟩
          rw [unwind, bind_of_ok (outcome_of_ok cleans)]
          exact done.1
      | some d =>
          rw [owes] at cleans
          simp only [owed, owes]
          refine ends_bind (ends_mono (duty_performed d u) (fun j v performed => ?_) fun _ _ => id)
          have later := ih (frame.passes e) v
          rw [performed.sessions] at later
          refine ends_bind (ends_mono later (fun k v' done => ?_) fun _ _ => id)
          obtain ⟨unwinds, fulfilled, warnings⟩ := done
          refine ends_pure ⟨?_, .cons performed.done fulfilled, ?_⟩
          · rw [unwind, bind_of_ok (outcome_of_ok (cleans.trans performed.run))]
            exact unwinds
          · rw [warnings, performed.warnings, failed_append, Nat.add_assoc]

-- From the first failure on, whatever the driver answers meanwhile: the same duties are done and the same
-- failure is raised, with one warning for each deed that failed. Only a request to stop gets in between.
theorem first_failure_wins (t : Task α) (w : World) :
    match t.plan.strikes w with
    | none => ∃ v w', t.run w = .ok v w'
    | some (frames, e, u) =>
        t.run w = (unwind frames e : Action α) u ∧
        ∀ u', u'.sessions = u.sessions →
          (perform (owed frames e u.sessions)).Ends u'
            (fun j v => (unwind frames e : Action α) u' = .error (passed frames e) v ∧
              Fulfilled (owed frames e u.sessions) j ∧ v.warnings = u'.warnings + j.failed)
            fun g _ => g.isOrdinary = false := by
  have runs := t.plan.run_strikes w
  rw [t.plan_runs] at runs
  cases struck : t.plan.strikes w with
  | none =>
      rw [struck] at runs
      exact runs
  | some found =>
      obtain ⟨frames, e, u⟩ := found
      rw [struck] at runs
      refine ⟨runs, fun u' same => ?_⟩
      rw [← same]
      exact unwinding_performed frames e u'

-- The operation fails, then the text that undoes it, and both closings after that: three warnings, and the
-- failure of the operation.
theorem failing_undo_only_warned_of :
    let gone := Kind.driver.fault "gone"
    let wrong := Kind.value.failure "wrong"
    let w := World.start
      [{ (default : RawConnectionState) with
          results := [default, { (default : Result) with fault := some gone }]
          closeCursorFaults := [none, some gone]
          closeFaults := [some gone] }] default 0
    let t : Task Unit := .operate ⟨0, .plain⟩ (.transact (fun _ => throw wrong) (.text "before"))
    ∃ w', t.run w = .error (wrong.wrap .transaction "Transaction rolled back") w' ∧ w'.warnings = 3 := by
  intro gone wrong w t
  have wins := first_failure_wins t w
  have struck : ∃ (s : Session) (c : Connection) (u v : World) (j : Journal),
      t.plan.strikes w = some ([.rollingBack c (some "before"), .leavingScope s, .releasing s c], wrong, u) ∧
        perform (owed [.rollingBack c (some "before"), .leavingScope s, .releasing s c] wrong u.sessions) u = .ok j v ∧
        u.warnings + j.failed = 3 :=
    ⟨⟨0, .plain⟩, .direct ⟨0⟩, _, _, _, rfl, rfl, rfl⟩
  obtain ⟨s, c, u, v, j, struck, performed, warnings⟩ := struck
  rw [struck] at wins
  obtain ⟨runs, unwinds⟩ := wins
  obtain ⟨raises, _, counted⟩ := ends_ok (unwinds u rfl) performed
  exact ⟨v, runs.trans raises, counted.trans warnings⟩

end SqlScope
