import SqlScope.Proofs.Marks
import SqlScope.Proofs.RollBack

set_option autoImplicit false

namespace SqlScope

open SqlScope.Action

variable {α β : Type} {s : Session} {c : Connection} {u v w w' w₁ : World} {P Q : Call → Prop} {sql : String}

inductive Job : Type → Type where
  | update (sql : String) (bind : Binder) : Job Int
  | batch (sql : String) (given : Option (List Given)) : Job (List Int)

namespace Job

def text : Job α → String
  | update sql _ => sql
  | batch sql _ => sql

def work : Job α → Connection → Action α
  | update sql bind, c => c.runUpdate sql bind
  | batch sql given, c => c.runBatch sql given

def run (s : Session) : Job α → (α → Action Unit) → Action α
  | update sql bind, consumer => s.runUpdate sql bind consumer
  | batch sql given, consumer => s.runBatch sql given consumer

def Keeps (P : Call → Prop) (s : Session) : Job α → Prop
  | update _ bind => ∀ t w, Modest s P w ((bind t).after w)
  | batch _ _ => True

theorem run_eq (s : Session) (j : Job α) (consumer : α → Action Unit) :
    j.run s consumer = (s.write j.work >>= fun v => consumer v >>= fun _ => pure v) := by
  cases j <;> rfl

end Job

def minding (s : Session) (Q : Call → Prop) : Law where
  inv _ := True
  rel w w' := w'.sessions.get s.index = w.sessions.get s.index ∧ Grew Q w w'
  refl _ := ⟨rfl, grew_same rfl⟩
  trans _ _ _ first second := ⟨second.1.trans first.1, grew_trans first.2 second.2⟩

theorem acts_minding {a : Action α} (kept : (acting Q).Kept a) : (minding s Q).Kept a :=
  kept_weaken kept (fun _ _ => trivial) fun _ _ _ acts => ⟨trivial, acts.sessions s.index, acts.grew⟩

theorem releasing_minding {close : Action Unit} {body : Action α} (what : String) (kind : Kind)
    (closes : (acting Q).Kept close) (kept : (minding s Q).Kept body) :
    (minding s Q).Kept (releasing close what kind body) :=
  kept_releasing what kind (acts_minding closes) (fun _ _ => acts_minding (warn_acts _ _)) kept

theorem statement_gives (c : Connection) (sql : String) (bind : Binder) :
    Gives (Statement.On c.raw (· = sql)) (Statement.openBound c sql bind) := by
  refine gives_bind_of (Statement.on_gives (T := (· = sql)) c rfl) fun t on => gives_bind fun r => ?_
  cases r with
  | ok v => exact gives_pure on
  | error f => exact gives_bind fun _ => gives_throw f

theorem with_statement_minding (implies : ∀ call, Call.Work c.raw (· = sql) call → Q call) {bind : Binder}
    (binds : ∀ t, (minding s Q).Kept (bind t)) {body : Statement → Action α}
    (works : ∀ t, t.On c.raw (· = sql) → (acting (Call.Work c.raw (· = sql))).Kept (body t)) :
    (minding s Q).Kept (c.withStatement sql bind body) := by
  refine kept_bind_gives ?_ (statement_gives c sql bind) fun t on => ?_
  · refine kept_bind_gives (acts_minding (acting_mono implies (Statement.on_acts c sql))) (Statement.on_gives (T := (· = sql)) c rfl)
      fun t on => kept_bind (kept_outcome (binds t)) fun r => ?_
    cases r with
    | ok v => exact kept_pure t
    | error f =>
        have closes := close_after_failure_acts (acting_mono implies (t.close_acts on)) "statement"
        exact kept_bind (acts_minding closes) fun _ => kept_throw f
  · exact releasing_minding _ _ (acting_mono implies (t.close_acts on)) (acts_minding (acting_mono implies (works t on)))

theorem work_minding {j : Job α} (keeps : j.Keeps P s) (c : Connection) :
    (minding s fun call => call.Work c.raw (· = j.text) ∨ P call).Kept (j.work c) := by
  cases j with
  | update sql bind =>
      refine with_statement_minding (fun _ => Or.inl) (fun t w _ => ?_) fun t on => t.run_update_acts on
      exact ⟨trivial, (keeps t w).record, grew_mono (fun _ => Or.inr) (keeps t w).grew⟩
  | batch sql given =>
      refine with_statement_minding (fun _ => Or.inl) (fun t => ?_) fun t on => t.run_batch_acts on
      exact acts_minding (Binder.of_batch_kept t.acts_queues given)

-- The call of rollback on this connection, seen from the world before. A connection in whose place a client
-- has put a plain value takes no calls: there, a warning stands for it.
def Connection.Tries (c : Connection) (w : World) : Event → Prop
  | .call (.rollback k) _ => k = c.raw
  | .log channel severity _ => channel = .session ∧ severity = .warning ∧ ∃ v, c.held w = .ok (.value v) w
  | _ => False

def RolledBack (c : Connection) (w w' : World) : Prop :=
  ∃ added undo, w'.history = added ++ undo :: w.history ∧ c.Tries w undo ∧
    ∀ e ∈ added, e.Meets fun call => call.closes = true

theorem rolled_back_then (rolled : RolledBack c u v) (closes : Grew (fun call => call.closes = true) v w) :
    RolledBack c u w := by
  obtain ⟨added, undo, grown, tries, meets⟩ := rolled
  obtain ⟨more, onward, closing⟩ := closes
  refine ⟨more ++ added, undo, by rw [onward, grown, List.append_assoc], tries, fun e member => ?_⟩
  rcases List.mem_append.mp member with late | early
  · exact closing e late
  · exact meets e early

theorem rolled_back_note (undo : Event) (tries : c.Tries w undo) (noted : w'.history = undo :: w.history) :
    RolledBack c w w' :=
  ⟨[], undo, noted, tries, fun _ absurd => (List.not_mem_nil absurd).elim⟩

theorem undo_write_outside (outside : s.inScope w = false) (c : Connection) :
    s.undoWrite c w = onOrdinary c.rollback
      (fun f => warn .session ("Rollback after failed write failed: " ++ f.text)) w := by
  change (if s.inScope w then pure () else onOrdinary c.rollback
    (fun f => warn .session ("Rollback after failed write failed: " ++ f.text)) : Action Unit) w = _
  rw [if_neg (by rw [outside]; decide)]

theorem undo_write_rolls_back (outside : s.inScope w = false) (c : Connection) :
    RolledBack c w ((s.undoWrite c).after w) := by
  rw [Action.after, undo_write_outside outside]
  rcases callee_reaches c "rollback" (fun k => k.rollback) w with reached | ⟨v, held, failed⟩
  · obtain ⟨fault, noted⟩ := raw_rollback_notes c.raw w
    have called : c.rollback w = c.raw.rollback w := reached
    cases ran : c.raw.rollback w with
    | ok _ w₁ =>
        rw [after_of_ok ran] at noted
        rw [on_ordinary_of_ok (called.trans ran)]
        exact rolled_back_note (.call (.rollback c.raw) fault) rfl noted
    | error f w₁ =>
        rw [after_of_error ran] at noted
        have rolled : RolledBack c w w₁ := rolled_back_note (.call (.rollback c.raw) fault) rfl noted
        rw [on_ordinary_of_error (called.trans ran)]
        by_cases ordinary : f.isOrdinary
        · rw [if_pos ordinary]
          exact rolled_back_then rolled (warn_acts _ _ w₁ trivial).2.grew
        · rw [if_neg ordinary]
          exact rolled
  · have refused : c.rollback w = .error (Failure.lacking v.typeName "rollback") w := failed
    have ordinary : (Failure.lacking v.typeName "rollback").isOrdinary = true := rfl
    rw [on_ordinary_of_error refused, if_pos ordinary]
    exact rolled_back_note (.log .session .warning _) ⟨rfl, rfl, v, held⟩ rfl

theorem commit_write_of_failed {f : Failure} (outside : s.inScope u = false) (failed : c.commit u = .error f v) :
    ∃ e, s.commitWrite c u = .error e v := by
  have same : s.commitWrite c u = wrapping .execution "Failed to commit" c.commit u := by
    change (if s.inScope u then pure () else wrapping .execution "Failed to commit" c.commit : Action Unit) u = _
    rw [if_neg (by rw [outside]; decide)]
  rw [same]
  exact ⟨_, wrapping_of_error failed _ _⟩

theorem commit_write_of_passed (outside : s.inScope u = false) (passed : c.commit u = .ok () v) :
    s.commitWrite c u = .ok () v := by
  change (if s.inScope u then pure () else wrapping .execution "Failed to commit" c.commit : Action Unit) u = _
  rw [if_neg (by rw [outside]; decide)]
  exact on_ordinary_of_ok passed

theorem holding_fails (body : Connection → Action α) {f : Failure} (entered : s.entry w = .ok c w₁)
    (failed : body c w₁ = .error f u) : ∃ e, s.holding body w = .error e ((s.holding body).after w) := by
  obtain ⟨leave, way, run⟩ := holding_of_entered (α := α) entered
  rw [Action.after, run, failed]
  rcases way with rfl | rfl
  · exact ⟨f, rfl⟩
  · change ∃ e, (s.releaseAfterFailure c >>= fun _ => (throw f : Action α)) u =
      .error e (worldOf ((s.releaseAfterFailure c >>= fun _ => (throw f : Action α)) u))
    cases released : s.releaseAfterFailure c u with
    | ok _ u₁ =>
        rw [bind_of_ok released]
        exact ⟨f, rfl⟩
    | error e u₁ =>
        rw [bind_of_error released]
        exact ⟨e, rfl⟩

theorem write_fails {j : Job α} {f : Failure} (entered : s.entry w = .ok c w₁)
    (failed : s.written j.work c w₁ = .error f u) (consumer : α → Action Unit) :
    (∃ e, j.run s consumer w = .error e ((s.write j.work).after w)) ∧
      Grew (fun call => call.closes = true) u ((s.write j.work).after w) := by
  have leaves := leaves_grew (holding_leaves entered (s.written j.work))
  obtain ⟨e, raised⟩ := holding_fails (s.written j.work) entered failed
  rw [after_of_error failed] at leaves
  refine ⟨⟨e, ?_⟩, leaves⟩
  rw [Job.run_eq]
  exact bind_of_error raised

-- The layer's calls up to the end of the statement are its work. If the statement fails, the rollback comes
-- next. If the commit fails, there is none. Otherwise the commit succeeded.
theorem failed_write_undone_unless_commit_failed (s : Session) (j : Job α) (consumer : α → Action Unit)
    {P : Call → Prop} (keeps : j.Keeps P s) {w w₁ : World} {c : Connection} (outside : s.inScope w = false)
    (entered : s.entry w = .ok c w₁) :
    let u := (j.work c).after w₁
    let w' := (s.write j.work).after w
    Grew (fun call => call.Work c.raw (· = j.text) ∨ P call) w₁ u ∧
    (∀ f, j.work c w₁ = .error f u → (∃ e, j.run s consumer w = .error e w') ∧ RolledBack c u w') ∧
    (∀ a f u', j.work c w₁ = .ok a u → c.commit u = .error f u' →
      (∃ e, j.run s consumer w = .error e w') ∧
        Grew (fun call => call = .commit c.raw ∨ call.closes = true) u w') ∧
    (∀ a u', j.work c w₁ = .ok a u → c.commit u = .ok () u' →
      u'.history = .call (.commit c.raw) none :: u.history ∧ Grew (fun call => call.closes = true) u' w') := by
  intro u w'
  obtain ⟨record, grew⟩ := (work_minding keeps c w₁ trivial).2
  have inside : s.inScope u = s.inScope w₁ := congrArg SessionState.inTransaction record
  have still : s.inScope u = false := inside.trans ((entry_in_scope entered).trans outside)
  refine ⟨grew, fun f failed => ?_, fun a f u' worked failed => ?_, fun a u' worked passed => ?_⟩
  · have rolled := undo_write_rolls_back still c
    have written : ∃ e, s.written j.work c w₁ = .error e ((s.undoWrite c).after u) := by
      rw [Session.written, bind_of_ok (outcome_of_error failed)]
      cases undone : s.undoWrite c u with
      | ok _ u₁ => exact ⟨f, (bind_of_ok undone).trans (by rw [after_of_ok undone]; rfl)⟩
      | error e u₁ => exact ⟨e, (bind_of_error undone).trans (by rw [after_of_error undone])⟩
    obtain ⟨e, written⟩ := written
    obtain ⟨raised, closes⟩ := write_fails entered written consumer
    exact ⟨raised, rolled_back_then rolled closes⟩
  · obtain ⟨e, uncommitted⟩ := commit_write_of_failed still failed
    have written : s.written j.work c w₁ = .error e u' := by
      rw [Session.written, bind_of_ok (outcome_of_ok worked)]
      exact bind_of_error uncommitted
    obtain ⟨raised, closes⟩ := write_fails entered written consumer
    have commits := (c.commit_acts (P := (· = .commit c.raw)) rfl u trivial).2
    rw [after_of_error failed] at commits
    exact ⟨raised, grew_trans (grew_mono (fun _ => Or.inl) commits.grew) (grew_mono (fun _ => Or.inr) closes)⟩
  · have written : s.written j.work c w₁ = .ok a u' := by
      rw [Session.written, bind_of_ok (outcome_of_ok worked)]
      exact bind_of_ok (commit_write_of_passed still passed)
    have leaves := leaves_grew (holding_leaves entered (s.written j.work))
    rw [after_of_ok written] at leaves
    exact ⟨commit_ok passed, leaves⟩

-- The commit of an update fails: the call raises, and rolls nothing back.
theorem write_kept_after_failed_commit :
    let s : Session := ⟨0, .plain⟩
    let refusing : RawConnectionState :=
      { (default : RawConnectionState) with commitFaults := [some (Kind.driver.fault "serialization")] }
    let w := World.start [refusing] default 0
    let j : Job Int := .update "UPDATE t SET a = 1" fun _ => pure ()
    let u := (j.work (.direct ⟨0⟩)).after (s.entry.after w)
    let w' := (s.write j.work).after w
    (∃ e, j.run s (fun _ => pure ()) w = .error e w') ∧
      Grew (fun call => call = .commit ⟨0⟩ ∨ call.closes = true) u w' := by
  intro s refusing w j u w'
  have keeps : j.Keeps (fun _ => False) s := fun _ _ => ⟨rfl, Nat.le_refl _, grew_same rfl⟩
  have entered : s.entry w = .ok (.direct ⟨0⟩) (s.entry.after w) := rfl
  have worked : ∃ a, j.work (.direct ⟨0⟩) (s.entry.after w) = .ok a u := ⟨_, rfl⟩
  have failed : ∃ f u', (Connection.direct ⟨0⟩).commit u = .error f u' := ⟨_, _, rfl⟩
  obtain ⟨a, worked⟩ := worked
  obtain ⟨f, u', failed⟩ := failed
  exact (failed_write_undone_unless_commit_failed s j (fun _ => pure ()) keeps rfl entered).2.2.1 a f u' worked failed

end SqlScope
