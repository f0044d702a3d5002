import SqlScope.Proofs.WrappedErrors
import SqlScope.Proofs.Stepwise

set_option autoImplicit false

namespace SqlScope

open SqlScope.Action

variable {α β : Type}

inductive Frame where
  | closing (x : Closable)
  | beginning
  | rollingBack (c : Connection) (name : Option String)
  | leavingScope (s : Session)
  | undoing (s : Session) (c : Connection)
  | releasing (s : Session) (c : Connection)

namespace Frame

def cleanUp : Frame → Failure → Action Unit
  | closing x, _ => closeAfterFailure x.close x.label
  | beginning, _ => pure ()
  | rollingBack c name, e => if e.isOrdinary then Transaction.rollBackAfterFailure c name else pure ()
  | leavingScope s, _ => s.setScope false
  | undoing s c, _ => s.undoWrite c
  | releasing s c, _ => s.releaseAfterFailure c

def passes : Frame → Failure → Failure
  | beginning, e => if e.isOrdinary then e.wrap .transaction "Cannot begin transaction" else e
  | rollingBack _ _, e => if e.isOrdinary then e.undone else e
  | _, e => e

end Frame

-- A failure of the clean-up takes the place of the failure that was on its way.
def unwind : List Frame → Failure → Action α
  | [], e => throw e
  | frame :: rest, e => do
    match ← outcome (frame.cleanUp e) with
    | .ok _ => unwind rest (frame.passes e)
    | .error g => unwind rest g

theorem unwind_append (inner outer : List Frame) (e : Failure) {w w' : World} {f : Failure}
    (unwound : (unwind inner e : Action α) w = .error f w') :
    (unwind (inner ++ outer) e : Action α) w = (unwind outer f : Action α) w' := by
  induction inner generalizing e w with
  | nil =>
      cases unwound
      rfl
  | cons frame rest ih =>
      rw [List.cons_append, unwind]
      rw [unwind] at unwound
      cases cleaned : frame.cleanUp e w with
      | ok _ w₁ =>
          rw [bind_of_ok (outcome_of_ok cleaned)] at unwound ⊢
          exact ih (frame.passes e) unwound
      | error g w₁ =>
          rw [bind_of_ok (outcome_of_error cleaned)] at unwound ⊢
          exact ih g unwound

theorem unwind_raises (frames : List Frame) (e : Failure) (w : World) :
    ∃ f w', ∀ {α : Type}, (unwind frames e : Action α) w = .error f w' := by
  induction frames generalizing e w with
  | nil => exact ⟨e, w, rfl⟩
  | cons frame rest ih =>
      cases cleaned : frame.cleanUp e w with
      | ok _ w₁ =>
          obtain ⟨f, w', raises⟩ := ih (frame.passes e) w₁
          exact ⟨f, w', fun {α} => by rw [unwind, bind_of_ok (outcome_of_ok cleaned)]; exact raises⟩
      | error g w₁ =>
          obtain ⟨f, w', raises⟩ := ih g w₁
          exact ⟨f, w', fun {α} => by rw [unwind, bind_of_ok (outcome_of_error cleaned)]; exact raises⟩

inductive Plan : Type → Type 1 where
  | step {α : Type} (party : Party) (a : Action α) : Plan α
  | next {α β : Type} (x : Plan α) (k : α → Plan β) : Plan β
  | under {α : Type} (frame : Frame) (x : Plan α) : Plan α

namespace Plan

def run {α : Type} : Plan α → Action α
  | step _ a => a
  | next x k => x.run >>= fun v => (k v).run
  | under frame x => do
    match ← outcome x.run with
    | .ok v => pure v
    | .error e =>
      frame.cleanUp e
      throw (frame.passes e)

-- The first failure in a run, where it arises, and the handlers that are active there, the innermost first.
def strikes {α : Type} : Plan α → World → Option (List Frame × Failure × World)
  | step _ a, w =>
    match a w with
    | .ok _ _ => none
    | .error e u => some ([], e, u)
  | next x k, w =>
    match x.strikes w with
    | some struck => some struck
    | none =>
      match x.run w with
      | .ok v u => (k v).strikes u
      | .error _ _ => none
  | under frame x, w => (x.strikes w).map fun struck => (struck.1 ++ [frame], struck.2)

theorem run_under_of_ok {frame : Frame} {x : Plan α} {v : α} {w w' : World} (ran : x.run w = .ok v w') :
    (under frame x).run w = .ok v w' := by
  rw [run, bind_of_ok (outcome_of_ok ran)]
  rfl

theorem run_under_of_error {frame : Frame} {x : Plan α} {e : Failure} {w w' : World} (failed : x.run w = .error e w') :
    (under frame x).run w = (unwind [frame] e : Action α) w' := by
  rw [run, bind_of_ok (outcome_of_error failed), unwind]
  cases cleaned : frame.cleanUp e w' with
  | ok _ u =>
      rw [bind_of_ok (outcome_of_ok cleaned)]
      exact bind_of_ok cleaned
  | error g u =>
      rw [bind_of_ok (outcome_of_error cleaned)]
      exact bind_of_error cleaned

theorem run_strikes (x : Plan α) (w : World) :
    match x.strikes w with
    | none => ∃ v w', x.run w = .ok v w'
    | some (frames, e, u) => x.run w = (unwind frames e : Action α) u := by
  induction x generalizing w with
  | step party a =>
      rw [strikes, run]
      cases ran : a w with
      | ok v w' => exact ⟨v, w', rfl⟩
      | error e u => rfl
  | next x k ihx ihk =>
      have first := ihx w
      rw [strikes, run]
      cases struck : x.strikes w with
      | some found =>
          obtain ⟨frames, e, u⟩ := found
          rw [struck] at first
          obtain ⟨f, w', raises⟩ := unwind_raises frames e u
          change x.run w = unwind frames e u at first
          change (x.run >>= fun v => (k v).run) w = unwind frames e u
          rw [raises] at first ⊢
          exact bind_of_error first
      | none =>
          rw [struck] at first
          obtain ⟨v, u, ran⟩ := first
          rw [bind_of_ok ran, ran]
          exact ihk v u
  | under frame x ih =>
      have inner := ih w
      rw [strikes]
      cases struck : x.strikes w with
      | none =>
          rw [struck] at inner
          obtain ⟨v, w', ran⟩ := inner
          exact ⟨v, w', run_under_of_ok ran⟩
      | some found =>
          obtain ⟨frames, e, u⟩ := found
          rw [struck] at inner
          obtain ⟨f, w', raises⟩ := unwind_raises frames e u
          change x.run w = unwind frames e u at inner
          change (under frame x).run w = unwind (frames ++ [frame]) e u
          rw [raises] at inner
          rw [run_under_of_error inner, unwind_append frames [frame] e raises]

def layer (a : Action α) : Plan α := step .layer a

def client (a : Action α) : Plan α := step .client a

def done (v : α) : Plan α := layer (pure v)

def fail (e : Failure) : Plan α := layer (throw e)

instance : Stepwise Plan where
  step := layer
  next := next
  closing c x := under (.closing c) x

def runSql (c : Connection) (sql : String) : Plan Unit :=
  next (layer c.openCursor) fun q => Stepwise.releasing (.cursor q) (layer (q.execute sql none))

def begin (c : Connection) (name : Option String) : Plan Unit :=
  next (layer c.switchToManual) fun _ =>
    match name with
    | none => done ()
    | some n => runSql c ("SAVEPOINT " ++ n)

def transact (c : Connection) (op : Connection → Action α) (savepoint : Value) : Plan α :=
  next (layer (Savepoint.request savepoint)) fun name =>
    next (under .beginning (begin c name)) fun _ =>
      next (under (.rollingBack c name) (next (client (op c)) fun v => next (layer c.commit) fun _ => done v)) fun v =>
        next (layer (debug .commands "Committed transaction")) fun _ => done v

def holding (s : Session) (body : Connection → Plan α) : Plan α :=
  next (layer s.active?) fun
    | some c => body c
    | none =>
      next (layer s.acquire) fun c =>
        next (under (.releasing s c) (body c)) fun v => next (layer (s.release c)) fun _ => done v

def write (s : Session) (body : Connection → Plan α) : Plan α :=
  holding s fun c => next (under (.undoing s c) (body c)) fun v => next (layer (s.commitWrite c)) fun _ => done v

def scope (s : Session) (op : Connection → Action α) (savepoint : Value) : Plan α :=
  next (layer s.state) fun t =>
    if t.inTransaction then fail (Kind.nestedTransaction.failure "A transaction is already active on this session")
    else
      holding s fun c =>
        next (layer (s.setScope true)) fun _ =>
          next (under (.leavingScope s) (transact c op savepoint)) fun v =>
            next (layer (s.setScope false)) fun _ => done v

def page (s : Session) (sql : String) (bind : Binder) (columns : List Column → Plan Unit) (offset maxRows : Int)
    (f : Row → Plan α) : Plan (List α) :=
  holding s fun c => Stepwise.page c sql (fun t => client (bind t)) columns offset maxRows f

def records (s : Session) (sql : String) (bind : Binder) (offset maxRows : Int) : Plan (List (Entries Label Value)) :=
  page s sql bind (fun _ => done ()) offset maxRows fun row => layer (ofExcept row.toMap)

section

variable {c : Connection} {s : Session} {sql : String}

theorem run_guarded (frame : Frame) (x : Plan α) (k : α → Plan β) :
    (next (under frame x) k).run =
      (outcome x.run >>= fun
        | .ok v => (k v).run
        | .error e => frame.cleanUp e >>= fun _ => throw (frame.passes e)) := by
  rw [run, run, bind_assoc]
  refine congrArg (outcome x.run >>= ·) (funext fun r => ?_)
  cases r with
  | ok v => exact pure_bind v _
  | error e => exact bind_assoc _ _ _

theorem runs : Stepwise.Runs Plan run where
  step _ := rfl
  next _ _ := rfl
  closing _ _ := rfl

theorem run_run_sql : (runSql c sql).run = Transaction.runSql c sql :=
  congrArg (c.openCursor >>= ·) (funext fun _ => runs.releasing _ _)

theorem run_begin (name : Option String) : (begin c name).run = Transaction.begin c name := by
  refine congrArg (c.switchToManual >>= ·) (funext fun _ => ?_)
  cases name with
  | none => rfl
  | some name => exact run_run_sql

theorem outcome_on_ordinary {a : Action α} {b : Action Unit} {recover : Failure → Action α} {f : α → Action β}
    {e' : Failure → Failure} (recovers : ∀ e, recover e = b >>= fun _ => throw (e' e)) :
    onOrdinary a recover >>= f =
      (outcome a >>= fun
        | .ok v => f v
        | .error e => (if e.isOrdinary then b else pure ()) >>= fun _ =>
            throw (if e.isOrdinary then e' e else e)) := by
  rw [onOrdinary, bind_assoc]
  refine congrArg (outcome a >>= ·) (funext fun r => ?_)
  cases r with
  | ok v => exact pure_bind v f
  | error e =>
      dsimp only
      by_cases ordinary : e.isOrdinary
      · simp only [if_pos ordinary, recovers e, bind_assoc]
        rfl
      · simp only [if_neg ordinary]
        rfl

theorem run_transact (op : Connection → Action α) (savepoint : Value) :
    (transact c op savepoint).run = c.transact op savepoint := by
  refine congrArg (Savepoint.request savepoint >>= ·) (funext fun name => ?_)
  rw [run_guarded, run_begin, outcome_on_ordinary (b := pure ()) fun _ => (pure_bind () _).symm]
  refine congrArg (outcome (Transaction.begin c name) >>= ·) (funext fun r => ?_)
  cases r with
  | ok _ =>
      dsimp only
      rw [run_guarded, outcome_on_ordinary fun _ => rfl]
      rfl
  | error e =>
      by_cases ordinary : e.isOrdinary
      · simp only [Frame.cleanUp, Frame.passes, if_pos ordinary]
      · simp only [Frame.cleanUp, Frame.passes, if_neg ordinary]

theorem run_holding (body : Connection → Plan α) : (holding s body).run = s.holding fun c => (body c).run := by
  refine congrArg (s.active? >>= ·) (funext fun found => ?_)
  cases found with
  | some c => rfl
  | none =>
      refine congrArg (s.acquire >>= ·) (funext fun c => ?_)
      rw [run_guarded]
      refine congrArg (outcome (body c).run >>= ·) (funext fun r => ?_)
      cases r with
      | ok v => rfl
      | error e => rfl

theorem run_write (body : Connection → Plan α) : (write s body).run = s.write fun c => (body c).run := by
  rw [write, run_holding]
  refine congrArg s.holding (funext fun c => ?_)
  rw [run_guarded]
  refine congrArg (outcome (body c).run >>= ·) (funext fun r => ?_)
  cases r with
  | ok v => rfl
  | error e => rfl

theorem run_scope (op : Connection → Action α) (savepoint : Value) :
    (scope s op savepoint).run = s.transact op savepoint := by
  refine congrArg (s.state >>= ·) (funext fun t => ?_)
  by_cases inside : t.inTransaction
  · simp only [if_pos inside]
    rfl
  · simp only [if_neg inside]
    rw [run_holding]
    refine congrArg s.holding (funext fun c => ?_)
    refine congrArg (s.setScope true >>= ·) (funext fun _ => ?_)
    rw [run_guarded, run_transact]
    refine congrArg (outcome (c.transact op savepoint) >>= ·) (funext fun r => ?_)
    cases r with
    | ok v => rfl
    | error e => rfl

theorem run_page (bind : Binder) (columns : List Column → Plan Unit) (offset maxRows : Int) (f : Row → Plan α) :
    (page s sql bind columns offset maxRows f).run =
      s.page sql bind (fun cs => (columns cs).run) offset maxRows fun row => (f row).run := by
  rw [page, run_holding, Session.page_eq_with_results]
  exact congrArg s.holding (funext fun c => runs.page c sql (fun t => client (bind t)) columns offset maxRows f)

theorem run_records (bind : Binder) (offset maxRows : Int) :
    (records s sql bind offset maxRows).run = s.records sql bind offset maxRows :=
  run_page bind (fun _ => done ()) offset maxRows fun row => layer (ofExcept row.toMap)

end

end Plan

def Operation.plan (s : Session) {α : Type} : Operation α → Plan α
  | query sql bind consumer =>
    Plan.holding s fun c => Stepwise.withResults c sql (fun t => .client (bind t)) fun r => .client (consumer r)
  | update sql bind consumer =>
    .next (Plan.write s fun c => Stepwise.withStatement c sql (fun t => .client (bind t)) fun t => .layer t.runUpdate) fun n =>
      .next (.client (consumer n)) fun _ => .done n
  | batch sql given consumer =>
    .next (Plan.write s fun c =>
        Stepwise.withStatement c sql (fun t => .layer (Binder.ofBatch given t)) fun t => .layer t.runBatch) fun ns =>
      .next (.client (consumer ns)) fun _ => .done ns
  | scan sql bind columns offset maxRows visitor =>
    .next (Plan.page s sql bind (fun cs => .client (columns cs)) offset maxRows fun row => .client (visitor row)) fun _ =>
      .done ()
  | records sql bind offset maxRows => Plan.records s sql bind offset maxRows
  | first sql bind => .next (Plan.records s sql bind 0 1) fun found => .done found.head?
  | transact op savepoint => Plan.scope s op savepoint

theorem Operation.plan_runs (o : Operation α) (s : Session) : (o.plan s).run = o.run s := by
  cases o with
  | query sql bind consumer =>
      exact (Plan.run_holding _).trans (congrArg s.holding (funext fun c => Plan.runs.with_results _ _ _ _))
  | update sql bind consumer =>
      refine congrArg (· >>= fun n => consumer n >>= fun _ => pure n) ?_
      exact (Plan.run_write _).trans (congrArg s.write (funext fun c => Plan.runs.with_statement _ _ _ _))
  | batch sql given consumer =>
      refine congrArg (· >>= fun ns => consumer ns >>= fun _ => pure ns) ?_
      exact (Plan.run_write _).trans (congrArg s.write (funext fun c => Plan.runs.with_statement _ _ _ _))
  | scan sql bind columns offset maxRows visitor => exact congrArg (· >>= fun _ => pure ()) (Plan.run_page bind _ _ _ _)
  | records sql bind offset maxRows => exact Plan.run_records bind offset maxRows
  | first sql bind => exact congrArg (· >>= fun found => pure found.head?) (Plan.run_records bind 0 1)
  | transact op savepoint => exact Plan.run_scope op savepoint

inductive Task : Type → Type 1 where
  | query {α : Type} (c : Connection) (sql : String) (bind : Binder) (consumer : RowCursor → Action α) : Task α
  | update (c : Connection) (sql : String) (bind : Binder) : Task Int
  | batch (c : Connection) (sql : String) (given : Option (List Given)) : Task (List Int)
  | transact {α : Type} (c : Connection) (op : Connection → Action α) (savepoint : Value) : Task α
  | hold {α : Type} (s : Session) (body : Connection → Action α) : Task α
  | operate {α : Type} (s : Session) (o : Operation α) : Task α

namespace Task

def run {α : Type} : Task α → Action α
  | query c sql bind consumer => c.withResults sql bind consumer
  | update c sql bind => c.runUpdate sql bind
  | batch c sql given => c.runBatch sql given
  | transact c op savepoint => c.transact op savepoint
  | hold s body => s.holding body
  | operate s o => o.run s

def plan {α : Type} : Task α → Plan α
  | query c sql bind consumer => Stepwise.withResults c sql (fun t => .client (bind t)) fun r => .client (consumer r)
  | update c sql bind => Stepwise.withStatement c sql (fun t => .client (bind t)) fun t => .layer t.runUpdate
  | batch c sql given => Stepwise.withStatement c sql (fun t => .layer (Binder.ofBatch given t)) fun t => .layer t.runBatch
  | transact c op savepoint => Plan.transact c op savepoint
  | hold s body => Plan.holding s fun c => .client (body c)
  | operate s o => o.plan s

theorem plan_runs (t : Task α) : t.plan.run = t.run := by
  cases t with
  | query c sql bind consumer => exact Plan.runs.with_results _ _ _ _
  | update c sql bind => exact Plan.runs.with_statement _ _ _ _
  | batch c sql given => exact Plan.runs.with_statement _ _ _ _
  | transact c op savepoint => exact Plan.run_transact op savepoint
  | hold s body => exact Plan.run_holding _
  | operate s o => exact o.plan_runs s

end Task

end SqlScope
