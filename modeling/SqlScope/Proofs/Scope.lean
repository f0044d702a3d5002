import SqlScope.Proofs.Settled

set_option autoImplicit false

namespace SqlScope

open SqlScope.Action

variable {α β : Type} {s : Session} {c : Connection}

def Action.ofOutcome : Except Failure α → Action α
  | .ok v => pure v
  | .error f => throw f

def Connection.begins (c : Connection) (savepoint : Value) : Action (Option String) := do
  let name ← Savepoint.request savepoint
  onOrdinary (Transaction.begin c name) fun f => throw (f.wrap .transaction "Cannot begin transaction")
  pure name

def Connection.concludes (c : Connection) (name : Option String) (r : Except Failure α) : Action α := do
  let v ← onOrdinary
    (do
      let v ← ofOutcome r
      c.commit
      pure v)
    fun f => do
      Transaction.rollBackAfterFailure c name
      throw (if f.isLayer then f else f.wrap .transaction "Transaction rolled back")
  debug .commands "Committed transaction"
  pure v

theorem bind_congr {a b : Action α} {w w' : World} (same : a w = b w') (f : α → Action β) :
    (a >>= f) w = (b >>= f) w' := by
  change EStateM.bind a f w = EStateM.bind b f w'
  rw [EStateM.bind, EStateM.bind, same]

theorem on_ordinary_congr {a b : Action α} {w w' : World} (same : a w = b w') (recover : Failure → Action α) :
    onOrdinary a recover w = onOrdinary b recover w' := by
  refine bind_congr ?_ _
  rw [outcome, outcome, same]

theorem transact_of_begun {savepoint : Value} {name : Option String} {w w' : World}
    (begun : c.begins savepoint w = .ok name w') (op : Connection → Action α) :
    c.transact op savepoint w = (outcome (op c) >>= c.concludes name) w' := by
  obtain ⟨name', w₁, asked, begun⟩ := ok_of_bind begun
  obtain ⟨u, w₂, begun, same⟩ := ok_of_bind begun
  cases same
  rw [Connection.transact, bind_of_ok asked, bind_of_ok begun]
  cases ran : op c w' with
  | ok v w₃ =>
      rw [bind_of_ok (outcome_of_ok ran)]
      exact bind_congr (on_ordinary_congr (bind_of_ok ran) _) _
  | error f w₃ =>
      rw [bind_of_ok (outcome_of_error ran)]
      exact bind_congr (on_ordinary_congr (bind_of_error ran) _) _

theorem transact_of_refused {savepoint : Value} {f : Failure} {w w' : World}
    (refused : c.begins savepoint w = .error f w') (op : Connection → Action α) :
    c.transact op savepoint w = .error f w' := by
  rw [Connection.transact]
  cases asked : Savepoint.request savepoint w with
  | error e w₁ =>
      rw [Connection.begins, bind_of_error asked] at refused
      cases refused
      exact bind_of_error asked
  | ok name w₁ =>
      rw [Connection.begins, bind_of_ok asked] at refused
      rw [bind_of_ok asked]
      cases begun : onOrdinary (Transaction.begin c name)
          (fun f => throw (f.wrap .transaction "Cannot begin transaction")) w₁ with
      | ok u w₂ =>
          rw [bind_of_ok begun] at refused
          cases refused
      | error e w₂ =>
          rw [bind_of_error begun] at refused
          cases refused
          exact bind_of_error begun

theorem begins_acts (c : Connection) (savepoint : Value) : (acting (Call.On c.raw)).Kept (c.begins savepoint) := by
  apply kept_bind (Savepoint.request_acts savepoint)
  intro name
  exact kept_bind (kept_on_ordinary (Transaction.begin_acts c name) fun _ => kept_throw _) fun _ => kept_pure name

theorem concludes_acts (c : Connection) (name : Option String) (r : Except Failure α) :
    (acting (Call.On c.raw)).Kept (c.concludes name r) := by
  refine kept_bind (kept_on_ordinary ?_ fun f => ?_) fun v => ?_
  · refine kept_bind ?_ fun v => kept_bind (c.commit_acts ⟨rfl, rfl⟩) fun _ => kept_pure v
    cases r with
    | ok v => exact kept_pure v
    | error f => exact kept_throw f
  · exact kept_bind (Transaction.roll_back_after_failure_acts c name) fun _ => kept_throw _
  · exact kept_bind (debug_acts _ _) fun _ => kept_pure v

namespace Session

def begins (s : Session) (savepoint : Value) (c : Connection) : Action (Option String) := do
  s.setScope true
  c.begins savepoint

def concludes (s : Session) (c : Connection) (name : Option String) (r : Except Failure α) : Action α :=
  ensuring (s.setScope false) (c.concludes name r)

end Session

theorem ensuring_congr {a b : Action α} {w w' : World} (same : a w = b w') (close : Action Unit) :
    ensuring close a w = ensuring close b w' := by
  refine bind_congr ?_ _
  rw [outcome, outcome, same]

theorem scope_of_begun {savepoint : Value} {name : Option String} {w w' : World}
    (begun : s.begins savepoint c w = .ok name w') (op : Connection → Action α) :
    s.scope op savepoint c w = (outcome (op c) >>= s.concludes c name) w' := by
  rw [Session.begins, bind_of_ok (set_scope_ok s true w)] at begun
  rw [Session.scope, bind_of_ok (set_scope_ok s true w)]
  rw [ensuring_congr (transact_of_begun begun op)]
  cases ran : op c w' with
  | ok v w₁ =>
      rw [bind_of_ok (outcome_of_ok ran)]
      exact ensuring_congr (bind_of_ok (outcome_of_ok ran)) _
  | error f w₁ =>
      rw [bind_of_ok (outcome_of_error ran)]
      exact ensuring_congr (bind_of_ok (outcome_of_error ran)) _

theorem scope_of_refused {savepoint : Value} {f : Failure} {w w' : World}
    (refused : s.begins savepoint c w = .error f w') (op : Connection → Action α) :
    s.scope op savepoint c w = (s.setScope false >>= fun _ => throw f) w' := by
  rw [Session.begins, bind_of_ok (set_scope_ok s true w)] at refused
  rw [Session.scope, bind_of_ok (set_scope_ok s true w)]
  exact bind_of_ok (outcome_of_error (transact_of_refused refused op))

end SqlScope
