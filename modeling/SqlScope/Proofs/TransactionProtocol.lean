import SqlScope.Proofs.CallLists

set_option autoImplicit false

namespace SqlScope

open SqlScope.Action

variable {α : Type} {c : Connection} {name : Option String} {u v w w' : World}

namespace Savepoint

end Savepoint

def steady : Law where
  inv _ := True
  rel w w' := w'.proxies = w.proxies ∧
    ∀ i, (w'.connections.get i).attributes = (w.connections.get i).attributes
  refl _ := ⟨rfl, fun _ => rfl⟩
  trans _ _ _ first second := ⟨second.1.trans first.1, fun i => (second.2 i).trans (first.2 i)⟩

def Call.Begins (k : RawConnection) (name : Option String) : Call → Prop
  | .assign d field value => d = k ∧ field = "autocommit" ∧ value = .bool false
  | .openCursor d => d = k ∧ name.isSome
  | .execute q sql _ => q.connection = k ∧ ∃ n, name = some n ∧ sql = "SAVEPOINT " ++ n
  | .closeCursor q => q.connection = k ∧ name.isSome
  | _ => False

theorem begin_begins (c : Connection) (name : Option String) :
    (acting (Call.Begins c.raw name)).Kept (Transaction.begin c name) := by
  refine kept_bind (c.switch_to_manual_acts ⟨rfl, rfl, rfl⟩) fun _ => ?_
  cases name with
  | none => exact kept_pure ()
  | some n =>
      refine kept_bind_gives (c.open_cursor_acts ⟨rfl, rfl⟩) c.open_cursor_gives fun q on => ?_
      exact releasing_acts _ _ (q.close_acts ⟨on, rfl⟩) (q.execute_acts _ none ⟨on, n, rfl, rfl⟩)

inductive Connection.Undoes (c : Connection) (w : World) : Option String → Calls → Prop where
  | all {calls : Calls} (reaches : c.Reaches (.rollback c.raw) w calls) : Undoes c w none calls
  | back {n : String} {calls : Calls} (executes : c.Executes ("ROLLBACK TO SAVEPOINT " ++ n) w calls) :
      Undoes c w (some n) calls

inductive Connection.Settles (c : Connection) (name : Option String) (e : Failure) (w : World) : Failure → World → Prop where
  | undone {calls : Calls} {w' : World} (ordinary : e.isOrdinary = true) (undoes : c.Undoes w name calls)
      (made : Adds calls w w') (since : ∀ f v, Transaction.rollBack c name w = .error f v → f.isOrdinary = true) :
      Settles c name e w e.undone w'
  | stopped {calls : Calls} {f : Failure} {w' : World} (ordinary : e.isOrdinary = true) (undoes : c.Undoes w name calls)
      (made : Adds calls w w') (stops : Transaction.rollBack c name w = .error f w') (request : f.isOrdinary = false) :
      Settles c name e w f w'
  | passed (request : e.isOrdinary = false) : Settles c name e w e w

inductive Connection.Runs (c : Connection) (name : Option String) (op : Connection → Action α) (w : World) :
    EStateM.Result Failure World α → Prop where
  | committed {v : α} {w₁ w₂ w' : World} (returned : op c w = .ok v w₁) (commits : c.commit w₁ = .ok () w₂)
      (made : Adds [(.commit c.raw, none)] w₁ w') : Runs c name op w (.ok v w')
  | uncommitted {v : α} {e f : Failure} {w₁ w₂ w' : World} {calls : Calls} (returned : op c w = .ok v w₁)
      (fails : c.commit w₁ = .error e w₂) (reaches : c.Reaches (.commit c.raw) w₁ calls) (made : Adds calls w₁ w₂)
      (settles : c.Settles name e w₂ f w') : Runs c name op w (.error f w')
  | failed {e f : Failure} {w₁ w' : World} (fails : op c w = .error e w₁) (settles : c.Settles name e w₁ f w') :
      Runs c name op w (.error f w')

end SqlScope
