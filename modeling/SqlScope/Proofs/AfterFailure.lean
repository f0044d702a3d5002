import SqlScope.Proofs.CallLists

set_option autoImplicit false

namespace SqlScope

open SqlScope.Action

variable {α : Type} {u v w w' : World}

inductive Call.Ending : Call → Prop where
  | cursor {q : RawCursor} : Ending (.closeCursor q)
  | connection {c : RawConnection} : Ending (.close c)
  | returned {held : Held} : Ending (.giveBack held)

def Calls.Harmless (calls : Calls) : Prop := ∀ made ∈ calls, ∀ g, made.2 = some g → g.kind.isOrdinary = true

def Shut (calls : Calls) (w w' : World) : Prop := Adds calls w w' ∧ ∀ made ∈ calls, made.1.Ending

-- Closes something, if it is not closed already. Any request to stop comes from a call.
def Action.Shuts (a : Action α) (w : World) : Prop :=
  a.Ends w (fun _ w' => ∃ calls, Shut calls w w') fun e w' =>
    ∃ calls : Calls, Shut calls w w' ∧ (calls.Harmless → e.isOrdinary = true)

namespace RawConnection

theorem close_makes (k : RawConnection) (w : World) : k.close.Makes (.close k) w := by
  let t := w.connections.get k.index
  let w₁ := { w with connections := w.connections.put k.index { t with closeFaults := t.closeFaults.tail } }
  have same : k.close w = (attempt (.close k) t.closeFaults.due >>= fun _ => k.update markClosed) w₁ := rfl
  rw [Action.Makes, Ends, same]
  exact ends_bind (ends_mono (attempt_makes (.close k) t.closeFaults.due w₁) (fun _ _ made => made)
    fun _ _ failed => failed)

end RawConnection

end SqlScope
