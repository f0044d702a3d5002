import SqlScope.Release

set_option autoImplicit false

namespace SqlScope

open SqlScope.Action

variable {α β : Type}

def worldOf : EStateM.Result Failure World α → World
  | .ok _ w => w
  | .error _ w => w

def Action.after (a : Action α) (w : World) : World := worldOf (a w)

theorem after_of_ok {a : Action α} {w w' : World} {v : α} (run : a w = .ok v w') : a.after w = w' := by
  rw [after, run, worldOf]

theorem after_of_error {a : Action α} {w w' : World} {f : Failure} (run : a w = .error f w') :
    a.after w = w' := by
  rw [after, run, worldOf]

theorem after_outcome (a : Action α) (w : World) : (outcome a).after w = a.after w := by
  unfold after outcome
  cases a w <;> rfl

theorem bind_of_ok {a : Action α} {f : α → Action β} {w w' : World} {v : α} (run : a w = .ok v w') :
    (a >>= f) w = f v w' := by
  change EStateM.bind a f w = f v w'
  rw [EStateM.bind, run]

theorem bind_of_error {a : Action α} {f : α → Action β} {w w' : World} {e : Failure}
    (run : a w = .error e w') : (a >>= f) w = .error e w' := by
  change EStateM.bind a f w = .error e w'
  rw [EStateM.bind, run]

theorem map_of_ok {a : Action α} {g : α → β} {w w' : World} {v : α} (run : a w = .ok v w') :
    (g <$> a) w = .ok (g v) w' :=
  bind_of_ok (f := fun v => pure (g v)) run

theorem map_of_error {a : Action α} {g : α → β} {w w' : World} {e : Failure} (run : a w = .error e w') :
    (g <$> a) w = .error e w' :=
  bind_of_error (f := fun v => pure (g v)) run

theorem after_bind_of_ok {a : Action α} {f : α → Action β} {w w' : World} {v : α}
    (run : a w = .ok v w') : (a >>= f).after w = (f v).after w' := by
  unfold after
  rw [bind_of_ok run]

theorem outcome_of_ok {a : Action α} {w w' : World} {v : α} (run : a w = .ok v w') :
    outcome a w = .ok (.ok v) w' := by
  rw [outcome, run]

theorem outcome_of_error {a : Action α} {w w' : World} {f : Failure} (run : a w = .error f w') :
    outcome a w = .ok (.error f) w' := by
  rw [outcome, run]

theorem on_ordinary_of_ok {a : Action α} {recover : Failure → Action α} {w w' : World} {v : α}
    (run : a w = .ok v w') : onOrdinary a recover w = .ok v w' := by
  rw [onOrdinary, bind_of_ok (outcome_of_ok run)]
  rfl

theorem on_ordinary_of_error {a : Action α} {recover : Failure → Action α} {w w' : World} {f : Failure}
    (run : a w = .error f w') :
    onOrdinary a recover w = if f.isOrdinary then recover f w' else .error f w' := by
  rw [onOrdinary, bind_of_ok (outcome_of_error run)]
  by_cases ordinary : f.isOrdinary
  · simp only [if_pos ordinary]
  · simp only [if_neg ordinary]
    rfl

def Failure.wrapped (e : Failure) (kind : Kind) (message : String) : Failure :=
  if e.isOrdinary ∧ ¬ e.isLayer then e.wrap kind message else e

theorem wrapping_of_error {a : Action α} {e : Failure} {w w' : World} (failed : a w = .error e w') (kind : Kind) (message : String) :
    wrapping kind message a w = .error (e.wrapped kind message) w' := by
  rw [wrapping, on_ordinary_of_error failed, Failure.wrapped]
  by_cases ordinary : e.isOrdinary
  · by_cases layer : e.isLayer
    · rw [if_pos ordinary, if_pos layer, if_neg (by simp [layer])]
      rfl
    · rw [if_pos ordinary, if_neg layer, if_pos ⟨ordinary, layer⟩]
      rfl
  · rw [if_neg ordinary, if_neg (by simp [ordinary])]

theorem after_outcome_bind (a : Action α) (w : World) :
    ∃ r, ∀ f : Except Failure α → Action β, (outcome a >>= f) w = f r (a.after w) := by
  cases ran : a w with
  | ok v w₁ => exact ⟨.ok v, fun f => by rw [bind_of_ok (outcome_of_ok ran), after_of_ok ran]⟩
  | error e w₁ => exact ⟨.error e, fun f => by rw [bind_of_ok (outcome_of_error ran), after_of_error ran]⟩

def Action.Ends (a : Action α) (w : World) (Q : α → World → Prop) (E : Failure → World → Prop) : Prop :=
  match a w with
  | .ok v w' => Q v w'
  | .error f w' => E f w'

section

variable {Q : α → World → Prop} {E : Failure → World → Prop} {w : World}

theorem ends_pure {v : α} (holds : Q v w) : (pure v : Action α).Ends w Q E := holds

theorem ends_ok {a : Action α} {w' : World} {v : α} (ends : a.Ends w Q E) (run : a w = .ok v w') :
    Q v w' := by
  rw [Ends, run] at ends
  exact ends

theorem ends_error {a : Action α} {w' : World} {f : Failure} (ends : a.Ends w Q E)
    (run : a w = .error f w') : E f w' := by
  rw [Ends, run] at ends
  exact ends

theorem ends_mono {a : Action α} {Q' : α → World → Prop} {E' : Failure → World → Prop}
    (ends : a.Ends w Q E) (ok : ∀ v w', Q v w' → Q' v w') (error : ∀ f w', E f w' → E' f w') :
    a.Ends w Q' E' := by
  unfold Ends at ends ⊢
  cases run : a w with
  | ok v w' =>
      rw [run] at ends
      exact ok v w' ends
  | error f w' =>
      rw [run] at ends
      exact error f w' ends

theorem ends_after {a : Action α} {R : World → Prop} (ends : a.Ends w (fun _ => R) (fun _ => R)) :
    R (a.after w) := by
  unfold Ends at ends
  unfold after
  cases run : a w with
  | ok v w' => rw [run] at ends; exact ends
  | error f w' => rw [run] at ends; exact ends

theorem ends_bind {a : Action β} {f : β → Action α}
    (ends : a.Ends w (fun v w' => (f v).Ends w' Q E) E) : (a >>= f).Ends w Q E := by
  unfold Ends at ends ⊢
  cases run : a w with
  | ok v w' =>
      rw [run] at ends
      rw [bind_of_ok run]
      exact ends
  | error e w' =>
      rw [run] at ends
      rw [bind_of_error run]
      exact ends

theorem ends_outcome {a : Action α} {R : Except Failure α → World → Prop}
    {E' : Failure → World → Prop}
    (ends : a.Ends w (fun v => R (.ok v)) (fun f => R (.error f))) : (outcome a).Ends w R E' := by
  unfold Ends outcome at *
  cases run : a w with
  | ok v w' =>
      rw [run] at ends
      exact ends
  | error f w' =>
      rw [run] at ends
      exact ends

theorem ends_on_ordinary {a : Action α} {recover : Failure → Action α}
    (ends : a.Ends w Q fun f w' =>
      if f.isOrdinary then (recover f).Ends w' Q E else E f w') : (onOrdinary a recover).Ends w Q E := by
  refine ends_bind (ends_outcome (ends_mono ends (fun _ _ holds => holds) fun f w' holds => ?_))
  change Ends (if f.isOrdinary then recover f else throw f) w' Q E
  by_cases ordinary : f.isOrdinary
  · rw [if_pos ordinary] at holds ⊢
    exact holds
  · rw [if_neg ordinary] at holds ⊢
    exact holds

theorem ends_rethrow {a : Action α} {R : World → Prop} {g : Failure → Failure}
    (ends : a.Ends w Q fun _ => R) : (onOrdinary a fun f => throw (g f)).Ends w Q fun _ => R := by
  refine ends_on_ordinary (ends_mono ends (fun _ _ holds => holds) fun f w' holds => ?_)
  by_cases ordinary : f.isOrdinary
  · rw [if_pos ordinary]
    exact holds
  · rw [if_neg ordinary]
    exact holds

end

-- A law speaks of the worlds before and after. The invariant is what the relation may rely on.
structure Law where
  inv : World → Prop
  rel : World → World → Prop
  refl : ∀ w, rel w w
  trans : ∀ u v w, rel u v → rel v w → rel u w

def Law.Kept (l : Law) (a : Action α) : Prop :=
  ∀ w, l.inv w → l.inv (a.after w) ∧ l.rel w (a.after w)

variable {l : Law}

theorem kept_pure (v : α) : l.Kept (pure v : Action α) := by
  intro w holds
  exact ⟨holds, l.refl w⟩

theorem kept_throw (f : Failure) : l.Kept (throw f : Action α) := by
  intro w holds
  exact ⟨holds, l.refl w⟩

theorem kept_get : l.Kept (get : Action World) := by
  intro w holds
  exact ⟨holds, l.refl w⟩

theorem kept_bind_of {a : Action α} {f : α → Action β} (first : l.Kept a)
    (rest : ∀ w v w', a w = .ok v w' → l.Kept (f v)) : l.Kept (a >>= f) := by
  intro w holds
  cases run : a w with
  | ok v w' =>
      obtain ⟨holds', moved⟩ := first w holds
      rw [after_of_ok run] at holds' moved
      obtain ⟨holds'', moved'⟩ := rest w v w' run w' holds'
      rw [after_bind_of_ok run]
      exact ⟨holds'', l.trans _ _ _ moved moved'⟩
  | error e w' =>
      have kept := first w holds
      rw [after_of_error run] at kept
      rw [after_of_error (bind_of_error run)]
      exact kept

theorem kept_bind {a : Action α} {f : α → Action β} (first : l.Kept a) (rest : ∀ v, l.Kept (f v)) :
    l.Kept (a >>= f) :=
  kept_bind_of first fun _ v _ _ => rest v

theorem kept_modify {f : World → World} (moves : ∀ w, l.inv w → l.inv (f w) ∧ l.rel w (f w)) :
    l.Kept (modify f : Action Unit) := by
  intro w holds
  exact moves w holds

theorem kept_get_bind {f : World → Action α}
    (moves : ∀ w, l.inv w → l.inv ((f w).after w) ∧ l.rel w ((f w).after w)) :
    l.Kept (get >>= f) := by
  intro w holds
  exact moves w holds

theorem kept_outcome {a : Action α} (kept : l.Kept a) : l.Kept (outcome a) := by
  intro w holds
  rw [after_outcome]
  exact kept w holds

theorem kept_of_except (r : Except Fault α) : l.Kept (ofExcept r) := by
  cases r with
  | ok v => exact kept_pure v
  | error f => exact kept_throw f.raised

theorem kept_on_ordinary {a : Action α} {recover : Failure → Action α} (body : l.Kept a)
    (handler : ∀ f, l.Kept (recover f)) : l.Kept (onOrdinary a recover) := by
  apply kept_bind (kept_outcome body)
  intro r
  cases r with
  | ok v => exact kept_pure v
  | error f =>
      dsimp only
      by_cases ordinary : f.isOrdinary
      · rw [if_pos ordinary]
        exact handler f
      · rw [if_neg ordinary]
        exact kept_throw f

theorem kept_wrapping {a : Action α} (kind : Kind) (message : String) (body : l.Kept a) :
    l.Kept (wrapping kind message a) :=
  kept_on_ordinary body fun _ => kept_throw _

theorem kept_close_after_failure {close : Action Unit} (closes : l.Kept close)
    (warns : ∀ channel text, l.Kept (warn channel text)) (what : String) : l.Kept (closeAfterFailure close what) :=
  kept_on_ordinary closes fun _ => warns _ _

theorem kept_releasing {close : Action Unit} {body : Action α} (what : String) (kind : Kind) (closes : l.Kept close)
    (warns : ∀ channel text, l.Kept (warn channel text)) (kept : l.Kept body) :
    l.Kept (releasing close what kind body) := by
  apply kept_bind (kept_outcome kept)
  intro r
  cases r with
  | ok v => exact kept_bind (kept_wrapping _ _ closes) fun _ => kept_pure v
  | error f => exact kept_bind (kept_close_after_failure closes warns what) fun _ => kept_throw f

theorem kept_ensuring {close : Action Unit} {body : Action α} (closes : l.Kept close)
    (kept : l.Kept body) : l.Kept (ensuring close body) := by
  apply kept_bind (kept_outcome kept)
  intro r
  cases r with
  | ok v => exact kept_bind closes fun _ => kept_pure v
  | error f => exact kept_bind closes fun _ => kept_throw f

theorem kept_weaken {m : Law} {a : Action α} (kept : l.Kept a) (needs : ∀ w, m.inv w → l.inv w)
    (gives : ∀ w w', m.inv w → l.rel w w' → m.inv w' ∧ m.rel w w') : m.Kept a := by
  intro w holds
  exact gives w (a.after w) holds (kept w (needs w holds)).2

end SqlScope
