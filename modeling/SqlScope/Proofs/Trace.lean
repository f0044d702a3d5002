import SqlScope.Proofs.Balance

set_option autoImplicit false

namespace SqlScope

open SqlScope.Action

variable {α β γ : Type} {s : Session} {u v w w' : World}

abbrev Trace := List (Party × Event)

def between (party : Party) (w w' : World) : Trace :=
  (w'.history.take (w'.history.length - w.history.length)).reverse.map fun e => (party, e)

theorem between_of_grown {party : Party} {added : List Event} (grown : w'.history = added ++ w.history) :
    between party w w' = added.reverse.map fun e => (party, e) := by
  have length : w'.history.length - w.history.length = added.length := by
    rw [grown, List.length_append]
    omega
  rw [between, length, grown, List.take_left']
  rfl

theorem between_history (party : Party) {added : List Event} (grown : w'.history = added ++ w.history) :
    w'.history = ((between party w w').map Prod.snd).reverse ++ w.history := by
  have plain : (Prod.snd ∘ fun e : Event => (party, e)) = id := rfl
  rw [between_of_grown grown, List.map_map, plain, List.map_id, List.reverse_reverse]
  exact grown

def around (enter : Action β) (op : β → Action α) (shown : β → World → Trace) (whole : Action γ) (w : World) :
    Trace :=
  match enter w with
  | .ok b w₁ => between .layer w w₁ ++ shown b w₁ ++ between .layer ((op b).after w₁) (whole.after w)
  | .error _ _ => between .layer w (whole.after w)

namespace Routine

def trace (s : Session) {α : Type} : Routine α → World → Trace
  | act party a, w => between party w (a.after w)
  | next x k, w =>
    x.trace s w ++ match x.run s w with
      | .ok v w' => (k v).trace s w'
      | .error _ _ => []
  | caught x, w => x.trace s w
  | holding op, w =>
    around s.entry (fun c => (op c).run s) (fun c => (op c).trace s) (s.holding fun c => (op c).run s) w
  | transact op savepoint, w =>
    if s.inScope w then []
    else
      let scope := s.scope (fun c => (op c).run s) savepoint
      around s.entry scope
        (fun c => around (s.begins savepoint c) (fun _ => (op c).run s) (fun _ => (op c).trace s) (scope c))
        (s.transact (fun c => (op c).run s) savepoint) w
  | write body, w =>
    let written := s.written fun c => (body c).run s
    around s.entry written
      (fun c => around (pure ()) (fun _ => (body c).run s) (fun _ => (body c).trace s) (written c))
      (s.write fun c => (body c).run s) w
  | close, w => between .layer w (s.close.after w)

end Routine

-- After a closing call the layer makes no call on that connection or on a cursor of it.
def ClosingLast (t : Trace) : Prop :=
  t.Pairwise fun e e' => ∀ k, e.2.closes = true → e.2.raw? = some k → e'.1 = .layer → e'.2.raw? ≠ some k

-- A trace between two worlds: the layer reaches the bound connection and new ones only, and what was
-- closed is not bound.
structure Traces (s : Session) (w w' : World) (t : Trace) : Prop where
  history : w'.history = (t.map Prod.snd).reverse ++ w.history
  opened : w.opened ≤ w'.opened
  bound : ∀ c, s.binding w' = some c → s.binding w = some c ∨ w.opened ≤ c.raw.index
  reach : ∀ e ∈ t, ∀ k, e.1 = .layer → e.2.raw? = some k →
    (s.binding w).map Connection.raw = some k ∨ w.opened ≤ k.index
  closed : ∀ e ∈ t, ∀ k, e.2.closes = true → e.2.raw? = some k →
    k.index < w'.opened ∧ (s.binding w').map Connection.raw ≠ some k
  last : ClosingLast t

theorem traces_nil (s : Session) (w : World) : Traces s w w [] where
  history := rfl
  opened := Nat.le_refl _
  bound _ bound := Or.inl bound
  reach _ absurd := by cases absurd
  closed _ absurd := by cases absurd
  last := List.Pairwise.nil

theorem bound_back {s : Session} {w w' : World}
    (bound : ∀ c, s.binding w' = some c → s.binding w = some c ∨ w.opened ≤ c.raw.index) {k : RawConnection}
    (there : (s.binding w').map Connection.raw = some k) :
    (s.binding w).map Connection.raw = some k ∨ w.opened ≤ k.index := by
  cases isBound : s.binding w' with
  | none =>
      rw [isBound] at there
      cases there
  | some c =>
      rw [isBound] at there
      have same : c.raw = k := Option.some.inj there
      subst same
      rcases bound c isBound with before | new
      · exact Or.inl (by rw [before]; rfl)
      · exact Or.inr new

theorem traces_append {t t' : Trace} (first : Traces s u v t) (second : Traces s v w t') :
    Traces s u w (t ++ t') where
  history := by
    rw [second.history, first.history]
    simp only [List.map_append, List.reverse_append, List.append_assoc]
  opened := Nat.le_trans first.opened second.opened
  bound c bound := by
    rcases second.bound c bound with there | new
    · exact first.bound c there
    · exact Or.inr (Nat.le_trans first.opened new)
  reach e member k isLayer on := by
    rcases List.mem_append.mp member with early | late
    · exact first.reach e early k isLayer on
    · rcases second.reach e late k isLayer on with there | new
      · exact bound_back first.bound there
      · exact Or.inr (Nat.le_trans first.opened new)
  closed e member k closes on := by
    rcases List.mem_append.mp member with early | late
    · obtain ⟨old, unbound⟩ := first.closed e early k closes on
      refine ⟨Nat.lt_of_lt_of_le old second.opened, fun there => ?_⟩
      rcases bound_back second.bound there with before | new
      · exact unbound before
      · omega
    · exact second.closed e late k closes on
  last := by
    refine List.pairwise_append.mpr ⟨first.last, second.last, ?_⟩
    intro e early e' late k closes on isLayer on'
    obtain ⟨old, unbound⟩ := first.closed e early k closes on
    rcases second.reach e' late k isLayer on' with there | new
    · exact unbound there
    · omega

end SqlScope
