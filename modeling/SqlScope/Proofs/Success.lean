import SqlScope.Proofs.Commits

set_option autoImplicit false

namespace SqlScope

open SqlScope.Action

variable {α : Type} {s : Session} {c : Connection} {w w' : World}

theorem on_ordinary_ok {a : Action α} {recover : Failure → Action α} {v : α}
    (fails : ∀ f, Gives (fun _ => False) (recover f)) (run : onOrdinary a recover w = .ok v w') :
    a w = .ok v w' := by
  cases ran : a w with
  | ok u w₁ =>
      rw [on_ordinary_of_ok ran] at run
      exact run
  | error f w₁ =>
      rw [on_ordinary_of_error ran] at run
      by_cases ordinary : f.isOrdinary
      · rw [if_pos ordinary] at run
        exact (fails f w₁ v w' run).elim
      · rw [if_neg ordinary] at run
        cases run

theorem ensuring_ok {close : Action Unit} {body : Action α} {v : α} (run : ensuring close body w = .ok v w') :
    ∃ u, body w = .ok v u ∧ close u = .ok () w' := by
  cases ran : body w with
  | ok b u =>
      rw [ensuring, bind_of_ok (outcome_of_ok ran)] at run
      obtain ⟨_, u₁, closed, same⟩ := ok_of_bind run
      cases same
      exact ⟨u, rfl, closed⟩
  | error f u =>
      rw [ensuring, bind_of_ok (outcome_of_error ran)] at run
      obtain ⟨_, u₁, _, thrown⟩ := ok_of_bind run
      cases thrown

theorem raw_commit_ok {k : RawConnection} (run : k.commit w = .ok () w') :
    w'.history = .call (.commit k) none :: w.history := by
  let t := w.connections.get k.index
  let w₁ := { w with connections := w.connections.put k.index { t with commitFaults := t.commitFaults.tail } }
  have same : k.commit w = attempt (.commit k) t.commitFaults.due w₁ := rfl
  rw [same] at run
  cases due : t.commitFaults.due with
  | none =>
      rw [due] at run
      cases run
      rfl
  | some f =>
      rw [due] at run
      cases run

theorem commit_ok (run : c.commit w = .ok () w') : w'.history = .call (.commit c.raw) none :: w.history := by
  obtain ⟨h, u, held, run⟩ := ok_of_bind run
  have same : u = w := by
    have still := (c.held_kept (l := still) w trivial).2
    rw [after_of_ok held] at still
    exact still
  subst same
  rcases c.held_gives u h u held with rfl | ⟨v, rfl⟩
  · exact raw_commit_ok run
  · cases run

theorem commit_write_ok (outside : s.inScope w = false) (run : s.commitWrite c w = .ok () w') :
    w'.history = .call (.commit c.raw) none :: w.history := by
  have same : s.commitWrite c w = wrapping .execution "Failed to commit" c.commit w := by
    change (if s.inScope w then pure () else wrapping .execution "Failed to commit" c.commit : Action Unit) w = _
    rw [if_neg (by rw [outside]; decide)]
  rw [same] at run
  exact commit_ok (on_ordinary_ok (fun _ => gives_throw _) run)

theorem written_ok {body : Connection → Action α} {v : α} (run : s.written body c w = .ok v w') :
    ∃ u, body c w = .ok v u ∧ s.commitWrite c u = .ok () w' := by
  cases ran : body c w with
  | ok b u =>
      rw [Session.written, bind_of_ok (outcome_of_ok ran)] at run
      obtain ⟨_, u₁, committed, same⟩ := ok_of_bind run
      cases same
      exact ⟨u, rfl, committed⟩
  | error f u =>
      rw [Session.written, bind_of_ok (outcome_of_error ran)] at run
      obtain ⟨_, u₁, _, thrown⟩ := ok_of_bind run
      cases thrown

theorem concludes_ok {name : Option String} {r : Except Failure α} {v : α}
    (run : c.concludes name r w = .ok v w') :
    r = .ok v ∧ ∃ u, u.history = .call (.commit c.raw) none :: w.history ∧ Grew (fun _ => True) u w' := by
  obtain ⟨b, u, ended, noted⟩ := ok_of_bind run
  have last : b = v ∧ Grew (fun _ => True) u w' := by
    obtain ⟨_, u₁, logged, same⟩ := ok_of_bind noted
    cases same
    have acts := (debug_acts (P := fun _ => True) .commands "Committed transaction" u trivial).2
    rw [after_of_ok logged] at acts
    exact ⟨rfl, acts.grew⟩
  obtain ⟨rfl, grew⟩ := last
  have ended' := on_ordinary_ok (fun _ => gives_bind fun _ => gives_throw _) ended
  cases r with
  | ok a =>
      obtain ⟨_, u₁, passed, ended'⟩ := ok_of_bind ended'
      cases passed
      obtain ⟨_, u₂, committed, same⟩ := ok_of_bind ended'
      cases same
      exact ⟨rfl, u, commit_ok committed, grew⟩
  | error f => cases ended'

theorem scope_ok {savepoint : Value} {name : Option String} {w₁ : World} {v : α} {op : Connection → Action α}
    (begun : s.begins savepoint c w = .ok name w₁) (run : s.scope op savepoint c w = .ok v w') :
    ∃ u u', op c w₁ = .ok v u ∧ u'.history = .call (.commit c.raw) none :: u.history ∧
      Grew (fun _ => True) u' w' ∧ Grew (Call.On c.raw) u w' ∧ w'.opened = u.opened := by
  rw [scope_of_begun begun] at run
  obtain ⟨r, u, ended, run⟩ := ok_of_bind run
  obtain ⟨u₂, concluded, closed⟩ := ensuring_ok run
  obtain ⟨rfl, u', committed, grew⟩ := concludes_ok concluded
  have acts := (concludes_acts c name (.ok v) u trivial).2
  rw [after_of_ok concluded] at acts
  rw [set_scope_ok] at closed
  cases closed
  exact ⟨u, u', ok_of_outcome ended, committed, grew_trans grew (grew_same rfl),
    grew_trans acts.grew (grew_same rfl), acts.opened⟩

def Leaves (s : Session) (c : Connection) (u w : World) : Prop := w = u ∨ Releases s c u w

theorem holding_leaves {w₁ : World} (entered : s.entry w = .ok c w₁) (body : Connection → Action α) :
    Leaves s c ((body c).after w₁) ((s.holding body).after w) := by
  obtain ⟨leave, way, run⟩ := holding_of_entered (α := α) entered
  rw [Action.after, Action.after, run]
  rcases way with rfl | rfl
  · exact Or.inl rfl
  · by_cases bound : s.binding (worldOf (body c w₁)) = some c
    · exact Or.inr (finish_of_bound bound)
    · rw [finish_of_other bound]
      exact Or.inl rfl

theorem holding_ok {w₁ : World} {v : α} (entered : s.entry w = .ok c w₁) {body : Connection → Action α}
    (run : s.holding body w = .ok v w') : ∃ u, body c w₁ = .ok v u := by
  obtain ⟨leave, way, runs⟩ := holding_of_entered (α := α) entered
  rw [runs] at run
  rcases way with rfl | rfl
  · exact ⟨w', run⟩
  · exact finish_ok run

theorem leaves_onward {u : World} (placed : s.Placed u) (leaves : Leaves s c u w) :
    s.Placed w ∧ Grew (fun _ => True) u w ∧ u.opened ≤ w.opened := by
  rcases leaves with rfl | releases
  · exact ⟨placed, grew_same rfl, Nat.le_refl _⟩
  · have opened : w.opened = u.opened := releases.rest.opened
    refine ⟨placed_of_kept placed (Or.inr (rebinds_binding releases)) (by omega), ?_, by omega⟩
    exact grew_mono (fun _ _ => trivial) releases.rest.grew

theorem leaves_unsettling {u : World} (leaves : Leaves s c u w) : Grew (fun call => call.settles = false) u w := by
  rcases leaves with rfl | releases
  · exact grew_same rfl
  · exact grew_mono (fun _ closing => closing_unsettling closing.1) releases.rest.grew

theorem entry_onward {w₁ : World} (placed : s.Placed w) (entered : s.entry w = .ok c w₁) :
    s.Placed w₁ ∧ Grew (fun _ => True) w w₁ ∧ w.opened ≤ w₁.opened ∧ s.inScope w₁ = s.inScope w ∧
      (s.binding w = some c ∨ w.opened ≤ c.raw.index) := by
  rcases entered_cases entered with ⟨rfl, bound, _⟩ | ⟨binds, _⟩
  · exact ⟨placed, grew_same rfl, Nat.le_refl _, rfl, Or.inl bound⟩
  · have index := congrArg RawConnection.index binds.rest.raw
    exact ⟨placed_of_binds binds, grew_mono (fun _ _ => trivial) binds.rest.grew, binds.rest.opened,
      rebinds_in_scope binds, Or.inr (Nat.le_of_eq index.symm)⟩

end SqlScope
