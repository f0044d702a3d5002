import SqlScope.Proofs.Success

set_option autoImplicit false

namespace SqlScope

open SqlScope.Action

variable {α β : Type} {c : Connection} {u v w w' : World} {P : Call → Prop} {E : Event → Prop}

def Shows (E : Event → Prop) (w w' : World) : Prop :=
  ∃ added, w'.history = added ++ w.history ∧ ∃ e ∈ added, E e

theorem shows_note {e : Event} (holds : E e) (noted : w'.history = e :: w.history) : Shows E w w' :=
  ⟨[e], noted, e, List.mem_cons_self, holds⟩

theorem shows_then (shows : Shows E u v) (later : Grew P v w) : Shows E u w := by
  obtain ⟨added, grown, e, member, holds⟩ := shows
  obtain ⟨more, onward, _⟩ := later
  exact ⟨more ++ added, by rw [onward, grown, List.append_assoc], e, List.mem_append_right more member, holds⟩

theorem shows_after (early : Grew P u v) (shows : Shows E v w) : Shows E u w := by
  obtain ⟨before, grown, _⟩ := early
  obtain ⟨added, onward, e, member, holds⟩ := shows
  exact ⟨added ++ before, by rw [onward, grown, List.append_assoc], e, List.mem_append_left before member, holds⟩

theorem shows_bind {a : Action α} {f : α → Action β} (shows : Shows E w (a.after w))
    (rest : ∀ v, (acting P).Kept (f v)) : Shows E w ((a >>= f).after w) := by
  cases ran : a w with
  | ok v w₁ =>
      rw [after_of_ok ran] at shows
      rw [after_bind_of_ok ran]
      exact shows_then shows (rest v w₁ trivial).2.grew
  | error e w₁ =>
      rw [after_of_error ran] at shows
      rw [after_of_error (bind_of_error ran)]
      exact shows

theorem shows_on_ordinary {a : Action α} {recover : Failure → Action α} (shows : Shows E w (a.after w))
    (rest : ∀ f, (acting P).Kept (recover f)) : Shows E w ((onOrdinary a recover).after w) := by
  refine shows_bind (P := P) ((after_outcome a w).symm ▸ shows) fun r => ?_
  cases r with
  | ok v => exact kept_pure v
  | error f =>
      dsimp only
      by_cases ordinary : f.isOrdinary
      · rw [if_pos ordinary]
        exact rest f
      · rw [if_neg ordinary]
        exact kept_throw f

theorem shows_releasing {close : Action Unit} {body : Action α} (shows : Shows E w (body.after w))
    (closes : (acting P).Kept close) (what : String) (kind : Kind) :
    Shows E w ((releasing close what kind body).after w) := by
  refine shows_bind (P := P) ((after_outcome body w).symm ▸ shows) fun r => ?_
  cases r with
  | ok v => exact kept_bind (kept_wrapping _ _ closes) fun _ => kept_pure v
  | error f => exact kept_bind (close_after_failure_acts closes what) fun _ => kept_throw f

theorem attempt_notes (call : Call) (due : Option Fault) (w : World) :
    ((attempt call due).after w).history = .call call due :: w.history := by
  cases due with
  | none => rfl
  | some f => rfl

theorem raw_rollback_notes (k : RawConnection) (w : World) :
    ∃ fault, (k.rollback.after w).history = .call (.rollback k) fault :: w.history := by
  let t := w.connections.get k.index
  let w₁ := { w with connections := w.connections.put k.index { t with rollbackFaults := t.rollbackFaults.tail } }
  have same : k.rollback w = attempt (.rollback k) t.rollbackFaults.due w₁ := rfl
  exact ⟨t.rollbackFaults.due, by rw [Action.after, same]; exact attempt_notes _ _ w₁⟩

theorem raw_execute_notes (q : RawCursor) (sql : String) (parameters : Option (List Value)) (w : World) :
    ∃ fault, ((q.execute sql parameters).after w).history = .call (.execute q sql parameters) fault :: w.history := by
  let t := w.connections.get q.connection.index
  let result := t.results.head?.getD default
  let w₁ := { w with connections := w.connections.put q.connection.index { t with results := t.results.tail } }
  let w₂ := (q.update fun _ => if result.fault.isSome then default else result.opened).after w₁
  have same : q.execute sql parameters w = attempt (.execute q sql parameters) result.fault w₂ := rfl
  exact ⟨result.fault, by rw [Action.after, same]; exact attempt_notes _ _ w₂⟩

theorem raw_cursor_refused {k : RawConnection} {f : Failure} (refused : k.openCursor w = .error f w') :
    ∃ fault, w'.history = .call (.openCursor k) (some fault) :: w.history := by
  let t := w.connections.get k.index
  let w₁ := { w with connections := w.connections.put k.index { t with cursorFaults := t.cursorFaults.tail } }
  have same : k.openCursor w = (attempt (.openCursor k) t.cursorFaults.due >>= fun _ =>
      k.update (fun s => { s with cursorsOpened := s.cursorsOpened + 1 }) >>= fun _ =>
        pure ⟨k, t.cursorsOpened⟩) w₁ := rfl
  rw [same] at refused
  cases due : t.cursorFaults.due with
  | none =>
      rw [due] at refused
      cases refused
  | some fault =>
      rw [due] at refused
      cases refused
      exact ⟨fault, rfl⟩

theorem connection_held (c : Connection) (w : World) :
    c.held w = .ok (.lent c.raw) w ∨ ∃ v, c.held w = .ok (.value v) w := by
  cases c with
  | direct k => exact Or.inl rfl
  | pooled p =>
      have held := proxy_held_ok p w
      unfold ProxyState.held at held
      cases named : (w.proxies.get p.index).attributes.get? "_connection" with
      | none =>
          rw [named] at held
          exact Or.inl held
      | some v =>
          rw [named] at held
          exact Or.inr ⟨v, held⟩

theorem callee_reaches (c : Connection) (name : String) (f : RawConnection → Action α) (w : World) :
    (c.held >>= fun h => h.callee name >>= f) w = f c.raw w ∨
      ∃ v, c.held w = .ok (.value v) w ∧
        (c.held >>= fun h => h.callee name >>= f) w = .error (Failure.lacking v.typeName name) w := by
  rcases connection_held c w with held | ⟨v, held⟩
  · left
    rw [bind_of_ok held]
    rfl
  · right
    exact ⟨v, held, by rw [bind_of_ok held]; rfl⟩

-- An attempt to roll back to a savepoint, or to roll back all. It shows at the driver, or by the warning that
-- it failed.
def Event.undoes (k : RawConnection) (savepoint : Option String) : Event → Prop
  | .call (.rollback d) _ => d = k ∧ savepoint = none
  | .call (.openCursor d) fault => d = k ∧ savepoint.isSome ∧ fault.isSome
  | .call (.execute q sql _) _ => q.connection = k ∧ ∃ name, savepoint = some name ∧ sql = "ROLLBACK TO SAVEPOINT " ++ name
  | .log channel severity text => channel = .commands ∧ severity = .warning ∧
      ∃ f : Failure, text = "Rollback failed after transaction error: " ++ f.text
  | _ => False

namespace Transaction

theorem run_sql_shows (c : Connection) (name : String) (w : World) :
    Shows (Event.undoes c.raw (some name)) w ((runSql c ("ROLLBACK TO SAVEPOINT " ++ name)).after w) ∨
      ∃ e, e.isOrdinary = true ∧ runSql c ("ROLLBACK TO SAVEPOINT " ++ name) w = .error e w := by
  rcases callee_reaches c "cursor" (fun k => k.openCursor) w with reached | ⟨v, _, failed⟩
  · left
    have opened : c.openCursor w = c.raw.openCursor w := reached
    cases ran : c.raw.openCursor w with
    | error f w₁ =>
        rw [runSql, after_of_error (bind_of_error (opened.trans ran))]
        obtain ⟨fault, noted⟩ := raw_cursor_refused ran
        exact shows_note (e := .call (.openCursor c.raw) (some fault)) ⟨rfl, rfl, rfl⟩ noted
    | ok q w₁ =>
        have on := c.open_cursor_gives w q w₁ (opened.trans ran)
        have acts := (c.raw.open_cursor_acts (P := fun _ => True) trivial w trivial).2
        rw [after_of_ok ran] at acts
        have run : (runSql c ("ROLLBACK TO SAVEPOINT " ++ name)).after w = _ :=
          after_bind_of_ok (opened.trans ran)
        rw [run]
        refine shows_after acts.grew (shows_releasing ?_ (q.close_acts (P := fun _ => True) trivial) _ _)
        obtain ⟨fault, noted⟩ := raw_execute_notes q ("ROLLBACK TO SAVEPOINT " ++ name) none w₁
        exact shows_note (e := .call (.execute q _ none) fault) ⟨on, name, rfl, rfl⟩ noted
  · exact Or.inr ⟨Failure.lacking v.typeName "cursor", rfl, bind_of_error failed⟩

theorem roll_back_shows (c : Connection) (savepoint : Option String) (w : World) :
    Shows (Event.undoes c.raw savepoint) w ((rollBack c savepoint).after w) ∨
      ∃ e, e.isOrdinary = true ∧ rollBack c savepoint w = .error e w := by
  cases savepoint with
  | none =>
      rcases callee_reaches c "rollback" (fun k => k.rollback) w with reached | ⟨v, _, failed⟩
      · left
        refine shows_bind (P := fun _ => True) ?_ fun _ => debug_acts _ _
        obtain ⟨fault, noted⟩ := raw_rollback_notes c.raw w
        have same : c.rollback.after w = c.raw.rollback.after w := congrArg worldOf reached
        rw [same]
        exact shows_note (e := .call (.rollback c.raw) fault) ⟨rfl, rfl⟩ noted
      · exact Or.inr ⟨Failure.lacking v.typeName "rollback", rfl, bind_of_error failed⟩
  | some name =>
      rcases run_sql_shows c name w with shows | ⟨e, ordinary, failed⟩
      · exact Or.inl (shows_bind (P := fun _ => True) shows fun _ => debug_acts _ _)
      · exact Or.inr ⟨e, ordinary, bind_of_error failed⟩

theorem roll_back_after_failure_shows (c : Connection) (savepoint : Option String) (w : World) :
    Shows (Event.undoes c.raw savepoint) w ((rollBackAfterFailure c savepoint).after w) := by
  rcases roll_back_shows c savepoint w with shows | ⟨e, ordinary, failed⟩
  · exact shows_on_ordinary (P := fun _ => True) shows fun _ => warn_acts _ _
  · rw [Action.after, rollBackAfterFailure, on_ordinary_of_error failed, if_pos ordinary]
    exact shows_note (e := .log .commands .warning _) ⟨rfl, rfl, e, rfl⟩ rfl

end Transaction

def Failure.undone (e : Failure) : Failure := if e.isLayer then e else e.wrap .transaction "Transaction rolled back"

def Connection.trial (c : Connection) (r : Except Failure α) : Action α := do
  let v ← ofOutcome r
  c.commit
  pure v

theorem trial_acts (c : Connection) (r : Except Failure α) : (acting (· = .commit c.raw)).Kept (c.trial r) := by
  refine kept_bind ?_ fun v => kept_bind (c.commit_acts rfl) fun _ => kept_pure v
  cases r with
  | ok v => exact kept_pure v
  | error f => exact kept_throw f

theorem concludes_of_passed {r : Except Failure α} {a : α} (passed : c.trial r w = .ok a u) (name : Option String) :
    ∃ w', c.concludes name r w = .ok a w' :=
  ⟨_, (bind_of_ok (on_ordinary_of_ok passed)).trans rfl⟩

theorem concludes_of_failed {r : Except Failure α} {e : Failure} (failed : c.trial r w = .error e u)
    (name : Option String) : ∃ f w', c.concludes name r w = .error f w' ∧
      (e.isOrdinary = true → Shows (Event.undoes c.raw name) u w') ∧ (e.isOrdinary = false → w' = u) := by
  let recover : Failure → Action α := fun f => do
    Transaction.rollBackAfterFailure c name
    throw (if f.isLayer then f else f.wrap .transaction "Transaction rolled back")
  have run : onOrdinary (c.trial r) recover w = if e.isOrdinary then recover e u else .error e u :=
    on_ordinary_of_error failed
  cases ordinary : e.isOrdinary with
  | false =>
      rw [ordinary] at run
      exact ⟨e, u, bind_of_error run, fun absurd => (Bool.false_ne_true absurd).elim, fun _ => rfl⟩
  | true =>
      rw [ordinary, if_pos rfl] at run
      have shows := Transaction.roll_back_after_failure_shows c name u
      cases undone : Transaction.rollBackAfterFailure c name u with
      | ok _ w₁ =>
          rw [after_of_ok undone] at shows
          exact ⟨_, w₁, bind_of_error (run.trans (bind_of_ok undone)), fun _ => shows,
            fun absurd => (Bool.false_ne_true absurd.symm).elim⟩
      | error f w₁ =>
          rw [after_of_error undone] at shows
          exact ⟨f, w₁, bind_of_error (run.trans (bind_of_error undone)), fun _ => shows,
            fun absurd => (Bool.false_ne_true absurd.symm).elim⟩

end SqlScope
