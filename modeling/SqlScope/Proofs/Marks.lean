import SqlScope.Proofs.ClosedOnce
import SqlScope.Proofs.Durability

set_option autoImplicit false

namespace SqlScope

open SqlScope.Action

variable {α β γ : Type} {s : Session} {c d : Connection} {u v w w' w₁ : World} {P Q : Call → Prop}
  {k : RawConnection} {t t' : Trace}

structure Marks (Q : Call → Prop) (w w' : World) (t : Trace) : Prop where
  records : w'.history = (t.map Prod.snd).reverse ++ w.history
  layer : ∀ e ∈ t, e.1 = .layer → e.2.Meets Q

theorem marks_nil (Q : Call → Prop) (w : World) : Marks Q w w [] :=
  ⟨rfl, fun _ absurd => (List.not_mem_nil absurd).elim⟩

theorem marks_append (first : Marks Q u v t) (second : Marks Q v w t') : Marks Q u w (t ++ t') where
  records := by
    rw [second.records, first.records]
    simp only [List.map_append, List.reverse_append, List.append_assoc]
  layer e member := by
    rcases List.mem_append.mp member with early | late
    · exact first.layer e early
    · exact second.layer e late

theorem records_between {party : Party} (grew : Grew Q w w') :
    w'.history = ((between party w w').map Prod.snd).reverse ++ w.history := by
  obtain ⟨added, grown, _⟩ := grew
  exact between_history party grown

theorem marks_between (grew : Grew Q w w') : Marks Q w w' (between .layer w w') :=
  ⟨records_between grew, fun _ member _ => (mem_between grew member).2⟩

theorem marks_client (grew : Grew P w w') : Marks Q w w' (between .client w w') := by
  refine ⟨records_between grew, fun e member isLayer => ?_⟩
  have absurd := (mem_between grew member).1.symm.trans isLayer
  cases absurd

theorem marks_around {enter : Action β} {op : β → Action α} {shown : β → World → Trace} {whole : Action γ}
    (entered : ∀ b w₁, enter w = .ok b w₁ → Grew Q w w₁ ∧ Marks Q w₁ ((op b).after w₁) (shown b w₁) ∧
      Grew Q ((op b).after w₁) (whole.after w))
    (refused : ∀ f w₁, enter w = .error f w₁ → Grew Q w (whole.after w)) :
    Marks Q w (whole.after w) (around enter op shown whole w) := by
  unfold around
  cases ran : enter w with
  | ok b w₁ =>
      obtain ⟨before, inner, after⟩ := entered b w₁ ran
      exact marks_append (marks_append (marks_between before) inner) (marks_between after)
  | error f w₁ => exact marks_between (refused f w₁ ran)

theorem begins_onto (s : Session) (savepoint : Value) (c : Connection) :
    (onto s c.raw).Kept (s.begins savepoint c) :=
  kept_bind (set_scope_onto c.raw true) fun _ => on_onto (begins_acts c savepoint)

theorem concludes_onto (s : Session) (c : Connection) (name : Option String) (r : Except Failure α) :
    (onto s c.raw).Kept (s.concludes c name r) :=
  kept_ensuring (set_scope_onto c.raw false) (on_onto (concludes_acts c name r))

theorem scope_onto {savepoint : Value} {name : Option String} {op : Connection → Action α}
    (begun : s.begins savepoint c w = .ok name w₁) :
    (onto s c.raw).rel ((op c).after w₁) ((s.scope op savepoint c).after w) := by
  obtain ⟨r, ended⟩ := after_outcome_bind (β := α) (op c) w₁
  have same : (s.scope op savepoint c).after w = (s.concludes c name r).after ((op c).after w₁) := by
    rw [Action.after, scope_of_begun begun, ended]
    rfl
  rw [same]
  exact (concludes_onto s c name r _ trivial).2

theorem written_onto (s : Session) (body : Connection → Action α) (c : Connection) (w : World) :
    (onto s c.raw).rel ((body c).after w) ((s.written body c).after w) := by
  cases ran : body c w with
  | ok v w₁ =>
      rw [after_of_ok ran, Session.written, after_bind_of_ok (outcome_of_ok ran)]
      exact (kept_bind (on_onto (commit_write_acts s c)) (fun _ => kept_pure v) w₁ trivial).2
  | error f w₁ =>
      rw [after_of_error ran, Session.written, after_bind_of_ok (outcome_of_error ran)]
      exact (kept_bind (on_onto (undo_write_acts s c)) (fun _ => kept_throw (α := α) f) w₁ trivial).2

theorem leaves_settles (leaves : Leaves s c w w') :
    (s.binding w' = s.binding w ∨ s.binding w' = none) ∧ w.opened ≤ w'.opened := by
  rcases leaves with rfl | releases
  · exact ⟨Or.inl rfl, Nat.le_refl _⟩
  · exact ⟨Or.inr (rebinds_binding releases), Nat.le_of_eq releases.rest.opened.symm⟩

theorem leaves_grew (leaves : Leaves s c w w') : Grew (fun call => call.closes = true) w w' := by
  rcases leaves with rfl | releases
  · exact grew_same rfl
  · exact grew_mono (fun _ closing => closing.1) releases.rest.grew

theorem entry_grew (entered : s.entry w = .ok c w₁) : Grew (fun call => call.opens = true) w w₁ := by
  rcases entered_cases entered with ⟨rfl, _⟩ | ⟨binds, _⟩
  · exact grew_same rfl
  · exact binds.rest.grew

theorem entry_in_scope (entered : s.entry w = .ok c w₁) : s.inScope w₁ = s.inScope w := by
  rcases entered_cases entered with ⟨rfl, _⟩ | ⟨binds, _⟩
  · rfl
  · exact rebinds_in_scope binds

theorem refused_grew {f : Failure} (refused : s.entry w = .error f w₁) (body : Connection → Action α) :
    Grew (fun call => call.opens = true) w ((s.holding body).after w) := by
  rcases holding_cases s w with ⟨e, v, found, drops, _, run⟩ | ⟨d, found, _⟩ | ⟨d, v, found, _⟩
  · rw [after_of_error (run body)]
    exact drops.rest.grew
  · rw [found] at refused
    cases refused
  · rw [found] at refused
    cases refused

theorem close_grew (s : Session) (w : World) : Grew (fun call => call.closes = true) w (s.close.after w) := by
  cases bound : s.binding w with
  | none =>
      rw [after_of_ok (session_close_of_unbound bound)]
      exact grew_same rfl
  | some c => exact grew_mono (fun _ closing => closing.1) (session_close_of_bound bound).rest.grew

-- What a run may rely on for the layer to make calls of `Q` only. It lasts as long as the session gets no
-- new binding but by an operation, which finds or opens a connection that fits.
structure Marking (s : Session) (Q : Call → Prop) (inv : World → Prop) (fits : RawConnection → Prop) : Prop where
  outer : ∀ call, call.opens = true ∨ call.closes = true → Q call
  on : ∀ k call, fits k → Call.On k call → Q call
  placed : ∀ w, inv w → s.Placed w
  entered : ∀ w c w₁, inv w → s.entry w = .ok c w₁ → inv w₁ ∧ fits c.raw
  kept : ∀ w w', inv w → s.binding w' = s.binding w ∨ s.binding w' = none → w.opened ≤ w'.opened → inv w'

section

variable {inv : World → Prop} {fits : RawConnection → Prop}

theorem marks_holding (marking : Marking s Q inv fits) (holds : inv w) {body : Connection → Action α}
    {shown : Connection → World → Trace}
    (inner : ∀ c w₁, inv w₁ → fits c.raw → Marks Q w₁ ((body c).after w₁) (shown c w₁)) :
    Marks Q w ((s.holding body).after w) (around s.entry body shown (s.holding body) w) := by
  apply marks_around
  · intro c w₁ entered
    obtain ⟨holds₁, fit⟩ := marking.entered w c w₁ holds entered
    exact ⟨grew_mono (fun call opens => marking.outer call (Or.inl opens)) (entry_grew entered), inner c w₁ holds₁ fit,
      grew_mono (fun call closes => marking.outer call (Or.inr closes)) (leaves_grew (holding_leaves entered body))⟩
  · intro f w₁ refused
    exact grew_mono (fun call opens => marking.outer call (Or.inl opens)) (refused_grew refused body)

theorem marks_scope (marking : Marking s Q inv fits) (fit : fits c.raw) (holds : inv w)
    {op : Connection → Action α} {shown : World → Trace} (savepoint : Value)
    (inner : ∀ w₁, inv w₁ → Marks Q w₁ ((op c).after w₁) (shown w₁)) :
    Marks Q w ((s.scope op savepoint c).after w)
      (around (s.begins savepoint c) (fun _ => op c) (fun _ => shown) (s.scope op savepoint c) w) := by
  have begins := (begins_onto s savepoint c w trivial).2
  apply marks_around
  · intro name w₁ begun
    rw [after_of_ok begun] at begins
    have holds₁ := marking.kept w w₁ holds (Or.inl begins.2.1) (Nat.le_of_eq begins.2.2.symm)
    exact ⟨grew_mono (fun call => marking.on c.raw call fit) begins.1, inner w₁ holds₁,
      grew_mono (fun call => marking.on c.raw call fit) (scope_onto begun).1⟩
  · intro f w₁ refused
    rw [after_of_error refused] at begins
    have same : ((s.scope op savepoint c).after w).history = w₁.history := by
      rw [Action.after, scope_of_refused refused]
      rfl
    exact grew_mono (fun call => marking.on c.raw call fit) (grew_trans begins.1 (grew_same same))

theorem marks_written (marking : Marking s Q inv fits) (fit : fits c.raw) {body : Connection → Action α}
    {shown : World → Trace} (inner : Marks Q w ((body c).after w) (shown w)) :
    Marks Q w ((s.written body c).after w)
      (around (pure ()) (fun _ => body c) (fun _ => shown) (s.written body c) w) := by
  apply marks_around
  · rintro _ w₁ ⟨rfl⟩
    exact ⟨grew_same rfl, inner, grew_mono (fun call => marking.on c.raw call fit) (written_onto s body c w).1⟩
  · intro f w₁ absurd
    cases absurd

theorem run_marks (marking : Marking s Q inv fits) {x : Routine α} {held : Option RawConnection}
    (keeps : x.Keeps (.modest s P) s held) (lent : ∀ k, held = some k → fits k) (holds : inv w) :
    Marks Q w ((x.run s).after w) (x.trace s w) := by
  have given : ∀ {c : Connection}, fits c.raw → ∀ k, some c.raw = some k → fits k := by
    rintro c fit k ⟨⟩
    exact fit
  induction x generalizing held w with
  | act party a =>
      cases party with
      | layer =>
          refine marks_between (grew_mono (fun call meets => ?_) (keeps w trivial).2.grew)
          obtain ⟨k, here, work⟩ := meets
          exact marking.on k call (lent k here) (Call.work_on call work)
      | client => exact marks_client (keeps w).grew
  | next x k ihx ihk =>
      have first := ihx keeps.1 lent holds
      have settles := run_settles (modest_apart s P) keeps.1 w
      have onward := run_onward keeps.1 (marking.placed w holds)
      rw [Routine.trace, Routine.run]
      cases ran : x.run s w with
      | ok v w₁ =>
          rw [after_of_ok ran] at first settles onward
          rw [after_bind_of_ok ran]
          exact marks_append first
            (ihk v (keeps.2 w v w₁ ran) lent (marking.kept w w₁ holds settles.binding onward.2.2))
      | error f w₁ =>
          rw [after_of_error ran] at first
          rw [after_of_error (bind_of_error ran), List.append_nil]
          exact first
  | caught x ih =>
      rw [Routine.trace, Routine.run, after_outcome]
      exact ih keeps lent holds
  | holding op ih => exact marks_holding marking holds fun c w₁ holds₁ fit => ih c (keeps c) (given fit) holds₁
  | transact op savepoint ih =>
      rw [Routine.trace, Routine.run]
      cases inside : s.inScope w with
      | true =>
          rw [if_pos rfl, after_of_error (transact_in_scope inside _ savepoint)]
          exact marks_nil Q w
      | false =>
          have run := transact_outside inside (fun c => (op c).run s) savepoint
          have after : (s.transact (fun c => (op c).run s) savepoint).after w = _ := congrArg worldOf run
          rw [if_neg (fun absurd => by cases absurd), around_congr run, after]
          refine marks_holding marking holds fun c w₁ holds₁ fit => ?_
          exact marks_scope marking fit holds₁ savepoint fun w₂ holds₂ => ih c (keeps c) (given fit) holds₂
  | write body ih =>
      rw [Routine.trace, Routine.run, write_eq]
      refine marks_holding marking holds fun c w₁ holds₁ fit => ?_
      exact marks_written marking fit (ih c (keeps c) (given fit) holds₁)
  | close => exact marks_between (grew_mono (fun call closes => marking.outer call (Or.inr closes)) (close_grew s w))

end

theorem placed_marking (s : Session) : Marking s (fun _ => True) s.Placed fun _ => True where
  outer _ _ := trivial
  on _ _ _ _ := trivial
  placed _ holds := holds
  entered _ _ _ holds entered := ⟨(entry_onward holds entered).1, trivial⟩
  kept _ _ holds left opened := placed_of_kept holds left opened

structure Session.Apart (s : Session) (k : RawConnection) (w : World) : Prop where
  placed : s.Placed w
  old : k.index < w.opened
  unbound : ∀ c, s.binding w = some c → c.raw ≠ k

theorem apart_marking (s : Session) (k : RawConnection) : Marking s (· ≠ .commit k) (s.Apart k) (· ≠ k) where
  outer call kind := by
    rcases kind with opens | closes
    · exact not_commit_of_unsettling (opening_unsettling opens)
    · exact not_commit_of_unsettling (closing_unsettling closes)
  on j call other on := by
    rintro rfl
    exact other (Option.some.inj on.1).symm
  placed _ holds := holds.placed
  entered w c w₁ holds entered := by
    obtain ⟨placed, _, opened, _, found⟩ := entry_onward holds.placed entered
    have other : c.raw ≠ k := by
      rcases found with bound | new
      · exact holds.unbound c bound
      · rintro rfl
        exact absurd holds.old (Nat.not_lt.mpr new)
    refine ⟨⟨placed, Nat.lt_of_lt_of_le holds.old opened, fun d bound => ?_⟩, other⟩
    have same : c = d := Option.some.inj ((entry_binding entered).symm.trans bound)
    exact same ▸ other
  kept _ _ holds left opened :=
    ⟨placed_of_kept holds.placed left opened, Nat.lt_of_lt_of_le holds.old opened,
      fun c bound => holds.unbound c (bound_before left bound)⟩

end SqlScope
