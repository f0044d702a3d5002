import SqlScope.Proofs.Isolation

set_option autoImplicit false

namespace SqlScope

open SqlScope.Action

variable {α : Type} {s : Session} {c : Connection} {w w' : World} {P : Call → Prop}

def Call.settles : Call → Bool
  | .commit _ => true
  | .rollback _ => true
  | _ => false

theorem work_unsettling {k : RawConnection} {T : String → Prop} {call : Call} (work : call.Work k T) :
    call.settles = false := by
  cases call <;> simp_all [Call.Work, Call.settles]

theorem opening_unsettling {call : Call} (opens : call.opens = true) : call.settles = false := by
  cases call <;> simp_all [Call.opens, Call.settles]

theorem closing_unsettling {call : Call} (closes : call.closes = true) : call.settles = false := by
  cases call <;> simp_all [Call.closes, Call.settles]

theorem not_commit_of_unsettling {k : RawConnection} {call : Call} (unsettling : call.settles = false) :
    call ≠ .commit k := by
  rintro rfl
  cases unsettling

theorem not_rollback_of_unsettling {k : RawConnection} {call : Call} (unsettling : call.settles = false) :
    call ≠ .rollback k := by
  rintro rfl
  cases unsettling

structure Modest (s : Session) (P : Call → Prop) (w w' : World) : Prop where
  record : w'.sessions.get s.index = w.sessions.get s.index
  opened : w.opened ≤ w'.opened
  grew : Grew P w w'

def Manner.modest (s : Session) (P : Call → Prop) : Manner where
  own a := ∀ w, Modest s P w (a.after w)
  text _ := True
  closes := True

theorem modest_apart (s : Session) (P : Call → Prop) : (Manner.modest s P).Apart s := fun _ own w => (own w).record

def Session.Placed (s : Session) (w : World) : Prop := ∀ c, s.binding w = some c → c.raw.index < w.opened

theorem placed_of_kept (placed : s.Placed w) (left : s.binding w' = s.binding w ∨ s.binding w' = none)
    (opened : w.opened ≤ w'.opened) : s.Placed w' :=
  fun c bound => Nat.lt_of_lt_of_le (placed c (bound_before left bound)) opened

theorem placed_of_binds (binds : Binds s c w w') : s.Placed w' := by
  intro d bound
  have same : c = d := Option.some.inj ((rebinds_binding binds).symm.trans bound)
  have index := congrArg RawConnection.index binds.rest.raw
  have next : w'.opened = w.opened + 1 := binds.rest.next
  rw [← same, index, next]
  exact Nat.lt_succ_self _

def onward (s : Session) : Law where
  inv := s.Placed
  rel w w' := Grew (fun _ => True) w w' ∧ w.opened ≤ w'.opened
  refl _ := ⟨grew_same rfl, Nat.le_refl _⟩
  trans _ _ _ first second := ⟨grew_trans first.1 second.1, Nat.le_trans first.2 second.2⟩

theorem acts_onward {a : Action α} (kept : (acting P).Kept a) : (onward s).Kept a := by
  refine kept_weaken kept (fun _ _ => trivial) fun w w' placed acts => ⟨?_, ?_, Nat.le_of_eq acts.opened.symm⟩
  · exact placed_of_kept placed (Or.inl (congrArg SessionState.binding (acts.sessions s.index)))
      (Nat.le_of_eq acts.opened.symm)
  · exact grew_mono (fun _ _ => trivial) acts.grew

theorem onward_rides (s : Session) : Rides (onward s) s fun _ => True where
  drops _ _ placed _ drops :=
    ⟨placed_of_kept placed (drops_binding drops) drops.rest.opened,
      grew_mono (fun _ _ => trivial) drops.rest.grew, drops.rest.opened⟩
  found _ _ _ _ := trivial
  binds _ _ _ _ _ binds :=
    ⟨trivial, placed_of_binds binds, grew_mono (fun _ _ => trivial) binds.rest.grew, binds.rest.opened⟩
  releases _ _ _ placed _ releases :=
    ⟨placed_of_kept placed (Or.inr (rebinds_binding releases)) (Nat.le_of_eq releases.rest.opened.symm),
      grew_mono (fun _ _ => trivial) releases.rest.grew, Nat.le_of_eq releases.rest.opened.symm⟩

theorem set_scope_onward (b : Bool) : (onward s).Kept (s.setScope b) := fun w placed =>
  ⟨placed_of_kept placed (Or.inl (set_scope_binding s b w)) (Nat.le_refl _), grew_same rfl, Nat.le_refl _⟩

theorem onward_governs (s : Session) (P : Call → Prop) : Governs (onward s) (.modest s P) s fun _ => True where
  own a own w placed := by
    have modest := own w
    have binding : s.binding (a.after w) = s.binding w := congrArg SessionState.binding modest.record
    exact ⟨placed_of_kept placed (Or.inl binding) modest.opened, grew_mono (fun _ _ => trivial) modest.grew,
      modest.opened⟩
  works _ _ _ works := acts_onward works
  holding _ kept := holding_rides (onward_rides s) kept
  transact _ savepoint kept := transact_rides (onward_rides s) fun c fit =>
    scope_kept set_scope_onward (fun _ => acts_onward) (kept c fit) savepoint
  write _ kept := holding_rides (onward_rides s) fun c fit => written_kept (fun _ => acts_onward) (kept c fit)
  close _ := close_rides (onward_rides s)

-- Inside a scope the layer commits nothing and rolls nothing back, on any connection.
def unsettling (s : Session) (P : Call → Prop) : Law where
  inv w := s.inScope w = true
  rel := Grew fun call => call.settles = false ∨ P call
  refl _ := grew_same rfl
  trans _ _ _ := grew_trans

theorem unsettling_rides (s : Session) (P : Call → Prop) : Rides (unsettling s P) s fun _ => True where
  drops _ _ inside _ drops :=
    ⟨(drops_in_scope drops).trans inside, grew_mono (fun _ opens => Or.inl (opening_unsettling opens)) drops.rest.grew⟩
  found _ _ _ _ := trivial
  binds _ _ _ inside _ binds :=
    ⟨trivial, (rebinds_in_scope binds).trans inside,
      grew_mono (fun _ opens => Or.inl (opening_unsettling opens)) binds.rest.grew⟩
  releases _ _ _ inside _ releases :=
    ⟨(rebinds_in_scope releases).trans inside,
      grew_mono (fun _ closing => Or.inl (closing_unsettling closing.1)) releases.rest.grew⟩

theorem unsettling_governs (s : Session) (P : Call → Prop) :
    Governs (unsettling s P) (.modest s P) s fun _ => True where
  own a own w inside :=
    ⟨(congrArg SessionState.inTransaction (own w).record).trans inside, grew_mono (fun _ => Or.inr) (own w).grew⟩
  works a held _ works := by
    refine kept_weaken works (fun _ _ => trivial) fun w w' inside acts => ⟨?_, grew_mono ?_ acts.grew⟩
    · exact (congrArg SessionState.inTransaction (acts.sessions s.index)).trans inside
    · rintro call ⟨k, _, work⟩
      exact Or.inl (work_unsettling work)
  holding _ kept := holding_rides (unsettling_rides s P) kept
  transact op savepoint _ w inside := by
    rw [after_of_error (transact_in_scope inside op savepoint)]
    exact ⟨inside, grew_same rfl⟩
  write body kept := by
    apply holding_rides (unsettling_rides s P)
    intro c fit w inside
    have kept' := kept c fit w inside
    change (unsettling s P).inv ((s.written body c).after w) ∧ (unsettling s P).rel w ((s.written body c).after w)
    rw [written_after_in_scope kept'.1]
    exact kept'
  close _ := close_rides (unsettling_rides s P)

-- A connection that is not bound, and that was opened before, is not committed by what comes later, unless
-- the client does it.
def uncommitting (s : Session) (k : RawConnection) : Law where
  inv w := k.index < w.opened ∧ ∀ c, s.binding w = some c → c.raw ≠ k
  rel := Grew (· ≠ .commit k)
  refl _ := grew_same rfl
  trans _ _ _ := grew_trans

theorem apart_of_kept {k : RawConnection} (apart : k.index < w.opened ∧ ∀ c, s.binding w = some c → c.raw ≠ k)
    (left : s.binding w' = s.binding w ∨ s.binding w' = none) (opened : w.opened ≤ w'.opened) :
    k.index < w'.opened ∧ ∀ c, s.binding w' = some c → c.raw ≠ k :=
  ⟨Nat.lt_of_lt_of_le apart.1 opened, fun c bound => apart.2 c (bound_before left bound)⟩

theorem uncommitting_rides (s : Session) (k : RawConnection) : Rides (uncommitting s k) s (· ≠ k) where
  drops _ _ apart _ drops :=
    ⟨apart_of_kept apart (drops_binding drops) drops.rest.opened,
      grew_mono (fun _ opens => not_commit_of_unsettling (opening_unsettling opens)) drops.rest.grew⟩
  found _ c apart bound := apart.2 c bound
  binds w w' c apart _ binds := by
    have index := congrArg RawConnection.index binds.rest.raw
    have low : k.index < w.opened := apart.1
    have opened : w.opened ≤ w'.opened := binds.rest.opened
    have other : c.raw ≠ k := by
      rintro rfl
      exact absurd index (Nat.ne_of_lt low)
    refine ⟨other, ⟨Nat.lt_of_lt_of_le low opened, fun d bound => ?_⟩,
      grew_mono (fun _ opens => not_commit_of_unsettling (opening_unsettling opens)) binds.rest.grew⟩
    have same : c = d := Option.some.inj ((rebinds_binding binds).symm.trans bound)
    exact same ▸ other
  releases _ _ _ apart _ releases :=
    ⟨apart_of_kept apart (Or.inr (rebinds_binding releases)) (Nat.le_of_eq releases.rest.opened.symm),
      grew_mono (fun _ closing => not_commit_of_unsettling (closing_unsettling closing.1)) releases.rest.grew⟩

theorem acts_uncommitting {k : RawConnection} (spares : ∀ call, P call → call ≠ .commit k)
    {a : Action α} (kept : (acting P).Kept a) : (uncommitting s k).Kept a := by
  refine kept_weaken kept (fun _ _ => trivial) fun w w' apart acts => ⟨?_, grew_mono spares acts.grew⟩
  exact apart_of_kept apart (Or.inl (congrArg SessionState.binding (acts.sessions s.index)))
    (Nat.le_of_eq acts.opened.symm)

theorem on_uncommitting {k : RawConnection} (other : c.raw ≠ k) {a : Action α}
    (kept : (acting (Call.On c.raw)).Kept a) : (uncommitting s k).Kept a := by
  refine acts_uncommitting (fun call on => ?_) kept
  rintro rfl
  exact other (Option.some.inj on.1).symm

theorem set_scope_uncommitting {k : RawConnection} (b : Bool) : (uncommitting s k).Kept (s.setScope b) :=
  fun w apart =>
    ⟨apart_of_kept apart (Or.inl (set_scope_binding s b w)) (Nat.le_refl _), grew_same rfl⟩

theorem uncommitting_governs (s : Session) {k : RawConnection} (spares : ∀ call, P call → call ≠ .commit k) :
    Governs (uncommitting s k) (.modest s P) s (· ≠ k) where
  own a own w apart :=
    ⟨apart_of_kept apart (Or.inl (congrArg SessionState.binding (own w).record)) (own w).opened,
      grew_mono spares (own w).grew⟩
  works a held _ works := by
    refine acts_uncommitting (fun call meets => ?_) works
    obtain ⟨d, _, work⟩ := meets
    exact not_commit_of_unsettling (work_unsettling work)
  holding _ kept := holding_rides (uncommitting_rides s k) kept
  transact _ savepoint kept := transact_rides (uncommitting_rides s k) fun c other =>
    scope_kept set_scope_uncommitting (fun _ => on_uncommitting other) (kept c other) savepoint
  write _ kept := holding_rides (uncommitting_rides s k) fun c other =>
    written_kept (fun _ => on_uncommitting other) (kept c other)
  close _ := close_rides (uncommitting_rides s k)

end SqlScope
