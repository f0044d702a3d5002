import SqlScope.Proofs.RollBack

set_option autoImplicit false

namespace SqlScope

open SqlScope.Action

variable {α β : Type} {c : Connection} {u v w w' : World}

abbrev Calls := List (Call × Option Fault)

def Event.call? : Event → Option (Call × Option Fault)
  | .call made fault => some (made, fault)
  | _ => none

def Adds (calls : Calls) (w w' : World) : Prop :=
  ∃ added, w'.history = added ++ w.history ∧ added.reverse.filterMap Event.call? = calls

theorem adds_same (same : w'.history = w.history) : Adds [] w w' := ⟨[], same, rfl⟩

theorem adds_call {call : Call} {fault : Option Fault} (noted : w'.history = .call call fault :: w.history) :
    Adds [(call, fault)] w w' :=
  ⟨[.call call fault], noted, rfl⟩

theorem adds_log {channel : Channel} {severity : Severity} {text : String}
    (noted : w'.history = .log channel severity text :: w.history) : Adds [] w w' :=
  ⟨[.log channel severity text], noted, rfl⟩

theorem adds_trans {first second : Calls} (early : Adds first u v) (late : Adds second v w) :
    Adds (first ++ second) u w := by
  obtain ⟨before, grown, same⟩ := early
  obtain ⟨added, onward, same'⟩ := late
  refine ⟨added ++ before, by rw [onward, grown, List.append_assoc], ?_⟩
  rw [List.reverse_append, List.filterMap_append, same, same']

def Action.Makes (a : Action α) (call : Call) (w : World) : Prop :=
  a.Ends w (fun _ w' => Adds [(call, none)] w w') fun f w' => ∃ g, f = g.raised ∧ Adds [(call, some g)] w w'

theorem attempt_makes (call : Call) (due : Option Fault) (w : World) : (attempt call due).Makes call w := by
  cases due with
  | none => exact adds_call rfl
  | some g => exact ⟨g, rfl, adds_call rfl⟩

theorem makes_after {a : Action α} {call : Call} (makes : a.Makes call w) : ∃ fault, Adds [(call, fault)] w (a.after w) := by
  unfold Action.Makes Ends at makes
  unfold Action.after
  cases ran : a w with
  | ok v w' => rw [ran] at makes; exact ⟨none, makes⟩
  | error f w' =>
      rw [ran] at makes
      obtain ⟨g, _, made⟩ := makes
      exact ⟨some g, made⟩

theorem makes_ok {a : Action α} {call : Call} {v : α} (makes : a.Makes call w) (run : a w = .ok v w') :
    Adds [(call, none)] w w' := by
  have made := ends_ok makes run
  exact made

namespace RawConnection

theorem commit_makes (k : RawConnection) (w : World) : k.commit.Makes (.commit k) w := by
  let t := w.connections.get k.index
  exact attempt_makes (.commit k) t.commitFaults.due
    { w with connections := w.connections.put k.index { t with commitFaults := t.commitFaults.tail } }

theorem rollback_makes (k : RawConnection) (w : World) : k.rollback.Makes (.rollback k) w := by
  let t := w.connections.get k.index
  exact attempt_makes (.rollback k) t.rollbackFaults.due
    { w with connections := w.connections.put k.index { t with rollbackFaults := t.rollbackFaults.tail } }

theorem open_cursor_makes (k : RawConnection) (w : World) : k.openCursor.Makes (.openCursor k) w := by
  let t := w.connections.get k.index
  let w₁ := { w with connections := w.connections.put k.index { t with cursorFaults := t.cursorFaults.tail } }
  have same : k.openCursor w = (attempt (.openCursor k) t.cursorFaults.due >>= fun _ =>
      k.update (fun s => { s with cursorsOpened := s.cursorsOpened + 1 }) >>= fun _ =>
        pure ⟨k, t.cursorsOpened⟩) w₁ := rfl
  rw [Action.Makes, Ends, same]
  exact ends_bind (ends_mono (attempt_makes (.openCursor k) t.cursorFaults.due w₁) (fun _ _ made => made)
    fun _ _ failed => failed)

end RawConnection

namespace RawCursor

theorem close_makes (q : RawCursor) (w : World) : q.close.Makes (.closeCursor q) w := by
  let t := w.connections.get q.connection.index
  exact attempt_makes (.closeCursor q) t.closeCursorFaults.due
    { w with
      connections := w.connections.put q.connection.index { t with closeCursorFaults := t.closeCursorFaults.tail } }

end RawCursor

theorem releasing_of_error {close : Action Unit} {body : Action α} {call : Call} {e : Failure} (what : String) (kind : Kind)
    (closes : close.Makes call v) (failed : body u = .error e v) :
    ∃ e' w' fault, releasing close what kind body u = .error e' w' ∧ Adds [(call, fault)] v w' := by
  have begun : releasing close what kind body u = (closeAfterFailure close what >>= fun _ => throw e) v :=
    bind_of_ok (outcome_of_error failed)
  rw [begun]
  cases ran : close v with
  | ok _ w₁ => exact ⟨e, w₁, none, bind_of_ok (on_ordinary_of_ok ran), makes_ok closes ran⟩
  | error f w₁ =>
      obtain ⟨g, _, made⟩ := ends_error closes ran
      have quiet : closeAfterFailure close what v = if f.isOrdinary then
          warn .resources ("Failed to close " ++ what ++ " while unwinding: " ++ f.text) w₁ else .error f w₁ :=
        on_ordinary_of_error ran
      by_cases ordinary : f.isOrdinary
      · rw [if_pos ordinary] at quiet
        exact ⟨e, _, some g, bind_of_ok quiet, adds_trans made (adds_log rfl)⟩
      · rw [if_neg ordinary] at quiet
        exact ⟨f, w₁, some g, bind_of_error quiet, made⟩

theorem releasing_of_ok {close : Action Unit} {body : Action α} {call : Call} {a : α} (what : String) (kind : Kind)
    (closes : close.Makes call v) (ran : body u = .ok a v) :
    (∃ w', releasing close what kind body u = .ok a w' ∧ Adds [(call, none)] v w') ∨
      ∃ e g w', releasing close what kind body u = .error e w' ∧ Adds [(call, some g)] v w' := by
  have begun : releasing close what kind body u =
      (wrapping kind ("Failed to close " ++ what) close >>= fun _ => pure a) v := bind_of_ok (outcome_of_ok ran)
  rw [begun]
  cases closed : close v with
  | ok _ w₁ => exact Or.inl ⟨w₁, bind_of_ok (on_ordinary_of_ok closed), makes_ok closes closed⟩
  | error f w₁ =>
      obtain ⟨g, _, made⟩ := ends_error closes closed
      exact Or.inr ⟨_, g, w₁, bind_of_error (wrapping_of_error closed _ _), made⟩

-- A call on a connection reaches the driver, unless the connection was replaced by a plain value.
inductive Connection.Reaches (c : Connection) (call : Call) (w : World) : Calls → Prop where
  | called {fault : Option Fault} : Reaches c call w [(call, fault)]
  | unreachable {v : Value} (value : c.held w = .ok (.value v) w) : Reaches c call w []

inductive Connection.Executes (c : Connection) (sql : String) (w : World) : Calls → Prop where
  | executed {q : RawCursor} {x y : Option Fault} (on : q.connection = c.raw) :
      Executes c sql w [(.openCursor c.raw, none), (.execute q sql none, x), (.closeCursor q, y)]
  | unopened {g : Fault} : Executes c sql w [(.openCursor c.raw, some g)]
  | unreachable {v : Value} (value : c.held w = .ok (.value v) w) : Executes c sql w []

theorem rollback_calls (c : Connection) (w : World) :
    ∃ calls, c.Reaches (.rollback c.raw) w calls ∧ Adds calls w (c.rollback.after w) := by
  rcases callee_reaches c "rollback" (fun k => k.rollback) w with reached | ⟨v, value, failed⟩
  · have same : c.rollback.after w = c.raw.rollback.after w := congrArg worldOf reached
    rw [same]
    obtain ⟨fault, made⟩ := makes_after (c.raw.rollback_makes w)
    exact ⟨_, .called, made⟩
  · have same : c.rollback w = .error (Failure.lacking v.typeName "rollback") w := failed
    rw [after_of_error same]
    exact ⟨[], .unreachable value, adds_same rfl⟩

theorem open_cursor_calls (c : Connection) (w : World) :
    (∃ q w', c.openCursor w = .ok q w' ∧ c.held w = .ok (.lent c.raw) w ∧ Adds [(.openCursor c.raw, none)] w w') ∨
    (∃ g w', c.openCursor w = .error g.raised w' ∧ Adds [(.openCursor c.raw, some g)] w w') ∨
    ∃ v, c.held w = .ok (.value v) w ∧ c.openCursor w = .error (Failure.lacking v.typeName "cursor") w := by
  rcases connection_held c w with lent | ⟨v, value⟩
  · have called : c.openCursor w = c.raw.openCursor w := bind_of_ok lent
    have makes := c.raw.open_cursor_makes w
    cases ran : c.raw.openCursor w with
    | ok q w' => exact Or.inl ⟨q, w', called.trans ran, lent, makes_ok makes ran⟩
    | error e w' =>
        obtain ⟨g, rfl, made⟩ := ends_error makes ran
        exact Or.inr (Or.inl ⟨g, w', called.trans ran, made⟩)
  · exact Or.inr (Or.inr ⟨v, value, bind_of_ok value⟩)

end SqlScope
