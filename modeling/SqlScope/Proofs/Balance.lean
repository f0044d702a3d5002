import SqlScope.Proofs.Scope

set_option autoImplicit false

namespace SqlScope

open SqlScope.Action

variable {α : Type} {s : Session} {w w' : World}

structure Session.Relies (s : Session) (c : Connection) (w : World) : Prop where
  index : c.raw.index < w.opened
  kind : c.isLent = s.source.lends
  opened : c.raw.IsOpen w
  pristine : c.Pristine w
  proxy : ∀ p, c = .pooled p → p.index < w.handles

structure Session.Sound (s : Session) (w : World) : Prop where
  bound : ∀ c, s.binding w = some c → s.Relies c w
  ahead : ∀ c : RawConnection, w.opened ≤ c.index → c.IsOpen w
  unused : ∀ i, w.handles ≤ i → (w.proxies.get i).bearing = (default : ProxyState).bearing

def Session.holds (s : Session) (w : World) (k : RawConnection) : Nat :=
  if (s.binding w).map Connection.raw = some k then 1 else 0

theorem holds_of_bound {c : Connection} (bound : s.binding w = some c) (k : RawConnection) :
    s.holds w k = if c.raw = k then 1 else 0 := by
  rw [Session.holds, bound]
  simp only [Option.map_some, Option.some.injEq]

theorem holds_of_unbound (unbound : s.binding w = none) (k : RawConnection) : s.holds w k = 0 := by
  rw [Session.holds, unbound]
  rfl

def made (w w' : World) (k : RawConnection) : Nat :=
  if w.opened ≤ k.index ∧ k.index < w'.opened ∧ (w.connections.get k.index).openFault = none then 1 else 0

structure Session.Balanced (s : Session) (w w' : World) : Prop where
  opened : w.opened ≤ w'.opened
  ahead : ∀ i, w'.opened ≤ i → (w'.connections.get i).standing = (w.connections.get i).standing
  balance : ∀ k : RawConnection, w'.count (Call.ends s.source.lends k) + s.holds w' k =
    w.count (Call.ends s.source.lends k) + s.holds w k + made w w' k

theorem open_fault_of_standing {t u : RawConnectionState} (same : t.standing = u.standing) :
    t.openFault = u.openFault := congrArg Prod.fst same

theorem made_of_none {k : RawConnection} (same : w'.opened = w.opened) : made w w' k = 0 :=
  if_neg fun between => by omega

theorem made_trans {u v w : World} (low : u.opened ≤ v.opened) (high : v.opened ≤ w.opened)
    (ahead : ∀ i, v.opened ≤ i → (v.connections.get i).standing = (u.connections.get i).standing)
    (k : RawConnection) : made u w k = made u v k + made v w k := by
  by_cases early : k.index < v.opened
  · have late : made v w k = 0 := if_neg fun between => by omega
    rw [late, made, made]
    simp only [early, Nat.lt_of_lt_of_le early high, Nat.add_zero]
  · have missing : made u v k = 0 := if_neg fun between => by omega
    have fault := open_fault_of_standing (ahead k.index (by omega))
    rw [missing, made, made, fault]
    simp only [show u.opened ≤ k.index by omega, show v.opened ≤ k.index by omega, Nat.zero_add]

theorem balanced_refl (s : Session) (w : World) : s.Balanced w w :=
  ⟨Nat.le_refl _, fun _ _ => rfl, fun _ => by rw [made_of_none rfl, Nat.add_zero]⟩

theorem balanced_trans (u v w : World) (first : s.Balanced u v) (second : s.Balanced v w) : s.Balanced u w where
  opened := Nat.le_trans first.opened second.opened
  ahead i high := (second.ahead i high).trans (first.ahead i (Nat.le_trans second.opened high))
  balance k := by
    have early := first.balance k
    have late := second.balance k
    rw [made_trans first.opened second.opened first.ahead k]
    omega

def balancing (s : Session) : Law := ⟨s.Sound, s.Balanced, balanced_refl s, balanced_trans⟩

theorem relies_of_standing {c : Connection} (relies : s.Relies c w) (opened : w.opened ≤ w'.opened)
    (handles : w.handles ≤ w'.handles)
    (standing : (w'.connections.get c.raw.index).standing = (w.connections.get c.raw.index).standing)
    (bearing : ∀ i, (w'.proxies.get i).bearing = (w.proxies.get i).bearing) : s.Relies c w' where
  index := Nat.lt_of_lt_of_le relies.index opened
  kind := relies.kind
  opened := is_open_of_standing relies.opened standing
  pristine p isPooled := (bearing p.index).trans (relies.pristine p isPooled)
  proxy p isPooled := Nat.lt_of_lt_of_le (relies.proxy p isPooled) handles

theorem balanced_of_same (sound : s.Sound w) (binding : s.binding w' = s.binding w)
    (opened : w'.opened = w.opened) (handles : w.handles ≤ w'.handles)
    (standing : ∀ i, (w'.connections.get i).standing = (w.connections.get i).standing)
    (bearing : ∀ i, (w'.proxies.get i).bearing = (w.proxies.get i).bearing)
    (counts : ∀ k, w'.count (Call.ends s.source.lends k) = w.count (Call.ends s.source.lends k)) :
    s.Sound w' ∧ s.Balanced w w' := by
  refine ⟨⟨fun c bound => ?_, fun c high => ?_, fun i high => ?_⟩, ⟨by omega, fun i _ => standing i, fun k => ?_⟩⟩
  · have relies := sound.bound c (binding.symm.trans bound)
    exact relies_of_standing relies (Nat.le_of_eq opened.symm) handles (standing _) bearing
  · exact is_open_of_standing (sound.ahead c (by omega)) (standing _)
  · exact (bearing i).trans (sound.unused i (Nat.le_trans handles high))
  · rw [made_of_none opened, counts, Session.holds, Session.holds, binding, Nat.add_zero]

-- Calls of `P`, which leave the session, its connections and its proxies as they are to the layer.
structure Spares (s : Session) (P : Call → Prop) (w w' : World) : Prop where
  record : w'.sessions.get s.index = w.sessions.get s.index
  opened : w'.opened = w.opened
  handles : w.handles ≤ w'.handles
  standing : ∀ i, (w'.connections.get i).standing = (w.connections.get i).standing
  bearing : ∀ i, (w'.proxies.get i).bearing = (w.proxies.get i).bearing
  grew : Grew P w w'

theorem spares_of_acts {P : Call → Prop} (acts : Acts P w w') : Spares s P w w' :=
  ⟨acts.sessions s.index, acts.opened, acts.handles, acts.standing, fun i => congrArg _ (acts.proxies i), acts.grew⟩

theorem spares_balanced {P : Call → Prop} (sound : s.Sound w) (spares : Spares s P w w')
    (closeless : ∀ call, P call → call.closes = false) : s.Sound w' ∧ s.Balanced w w' := by
  refine balanced_of_same sound (congrArg SessionState.binding spares.record) spares.opened spares.handles
    spares.standing spares.bearing fun k => count_grew spares.grew fun call meets => ?_
  apply Bool.eq_false_iff.mpr
  intro ends
  have closes := closes_of_ends ends
  rw [closeless call meets] at closes
  cases closes

theorem acts_balancing {P : Call → Prop} (closeless : ∀ call, P call → call.closes = false) {a : Action α}
    (kept : (acting P).Kept a) : (balancing s).Kept a :=
  kept_weaken kept (fun _ _ => trivial) fun _ _ sound acts => spares_balanced sound (spares_of_acts acts) closeless

theorem on_balancing {c : Connection} {a : Action α} (kept : (acting (Call.On c.raw)).Kept a) :
    (balancing s).Kept a := acts_balancing (fun _ on => on.2) kept

theorem set_scope_balancing (b : Bool) : (balancing s).Kept (s.setScope b) := fun w sound =>
  balanced_of_same sound (set_scope_binding s b w) rfl (Nat.le_refl _) (fun _ => rfl) (fun _ => rfl) fun _ => rfl

theorem made_of_next (k : RawConnection) (opened : w'.opened = w.opened + 1)
    (intact : (w.connections.get w.opened).openFault = none) :
    made w w' k = if (⟨w.opened⟩ : RawConnection) = k then 1 else 0 := by
  unfold made
  by_cases same : (⟨w.opened⟩ : RawConnection) = k
  · subst same
    rw [if_pos rfl, if_pos ⟨Nat.le_refl _, by rw [opened]; exact Nat.lt_succ_self _, intact⟩]
  · rw [if_neg same, if_neg]
    rintro ⟨low, high, _⟩
    have last : w.opened = k.index := by omega
    exact same (congrArg RawConnection.mk last)

theorem sound_of_releases {c : Connection} (sound : s.Sound w) (bound : s.binding w = some c)
    (releases : Releases s c w w') : s.Sound w' where
  bound d absurd := by
    rw [rebinds_binding releases] at absurd
    cases absurd
  ahead d high := by
    have opened : w'.opened = w.opened := releases.rest.opened
    have old := (sound.bound c bound).index
    exact is_open_of_standing (sound.ahead d (by omega)) (releases.rest.standing d.index (by omega))
  unused i high := by
    have handles : w'.handles = w.handles := releases.rest.handles
    have apart : ∀ p, c = .pooled p → i ≠ p.index := by
      intro p isPooled same
      have low := (sound.bound c bound).proxy p isPooled
      omega
    exact (congrArg _ (releases.rest.proxies i apart)).trans (sound.unused i (by omega))

theorem balanced_of_releases {c : Connection} (sound : s.Sound w) (bound : s.binding w = some c)
    (releases : Releases s c w w') : s.Balanced w w' where
  opened := Nat.le_of_eq releases.rest.opened.symm
  ahead i high := by
    have opened : w'.opened = w.opened := releases.rest.opened
    have old := (sound.bound c bound).index
    exact releases.rest.standing i (by omega)
  balance k := by
    have relies := sound.bound c bound
    have closes := releases.rest
    have opened : w'.opened = w.opened := closes.opened
    rw [made_of_none opened, holds_of_unbound (rebinds_binding releases), holds_of_bound bound]
    by_cases same : c.raw = k
    · subst same
      have ended := closes.ended relies.pristine
      rw [relies.kind] at ended
      rw [if_pos rfl]
      exact ended
    · rw [if_neg same]
      refine count_grew closes.grew fun call closing => Bool.eq_false_iff.mpr fun ends => same ?_
      exact Option.some.inj ((raw_of_ends (closing.2 k (raw_of_ends ends))).symm.trans (raw_of_ends ends))

theorem opens_spared (k : RawConnection) (lent : Bool) (call : Call) (opens : call.opens = true) :
    call.ends lent k = false := by
  cases call <;> simp_all [Call.opens, Call.ends]

theorem count_opening (k : RawConnection) (lent : Bool) (grew : Grew (fun call => call.opens = true) w w') :
    w'.count (Call.ends lent k) = w.count (Call.ends lent k) :=
  count_grew grew fun call => opens_spared k lent call

theorem sound_of_binds {c : Connection} (sound : s.Sound w) (binds : Binds s c w w') : s.Sound w' where
  bound d isBound := by
    have same : d = c := Option.some.inj (isBound.symm.trans (rebinds_binding binds))
    subst same
    have opens := binds.rest
    have opened : w'.opened = w.opened + 1 := opens.next
    have index : d.raw.index = w.opened := congrArg RawConnection.index opens.raw
    refine ⟨by omega, opens.kind, ?_, fun p isPooled => ?_, fun p isPooled => (opens.proxy p isPooled).2⟩
    · exact is_open_of_standing (sound.ahead d.raw (by omega)) (congrArg _ (opens.connections _))
    · exact (congrArg _ (opens.proxies _)).trans (sound.unused _ (opens.proxy p isPooled).1)
  ahead d high := by
    have opened : w.opened ≤ w'.opened := binds.rest.opened
    exact is_open_of_standing (sound.ahead d (by omega)) (congrArg _ (binds.rest.connections _))
  unused i high := (congrArg _ (binds.rest.proxies i)).trans (sound.unused i (Nat.le_trans binds.rest.handles high))

theorem balanced_of_binds {c : Connection} (unbound : s.binding w = none) (binds : Binds s c w w') :
    s.Balanced w w' where
  opened := binds.rest.opened
  ahead i _ := congrArg _ (binds.rest.connections i)
  balance k := by
    have grew : Grew (fun call => call.opens = true) w w' := binds.rest.grew
    have opened : w'.opened = w.opened + 1 := binds.rest.next
    rw [count_opening k _ grew, holds_of_unbound unbound, holds_of_bound (rebinds_binding binds), binds.rest.raw,
      made_of_next k opened binds.rest.intact, Nat.add_zero]

theorem sound_of_drops (sound : s.Sound w) (unbound : s.binding w = none) (drops : Drops s w w') : s.Sound w' where
  bound d absurd := by
    rw [unbound_after (drops_binding drops) unbound] at absurd
    cases absurd
  ahead d high := by
    have opened : w.opened ≤ w'.opened := drops.rest.opened
    exact is_open_of_standing (sound.ahead d (by omega)) (congrArg _ (drops.rest.connections _))
  unused i high := (congrArg _ (drops.rest.proxies i)).trans (sound.unused i (Nat.le_trans drops.rest.handles high))

theorem balanced_of_drops (unbound : s.binding w = none) (drops : Drops s w w') : s.Balanced w w' where
  opened := drops.rest.opened
  ahead i _ := congrArg _ (drops.rest.connections i)
  balance k := by
    have grew : Grew (fun call => call.opens = true) w w' := drops.rest.grew
    have failed : made w w' k = 0 := by
      refine if_neg ?_
      rintro ⟨low, high, intact⟩
      have fault := drops.rest.none k.index low high
      rw [intact] at fault
      cases fault
    rw [count_opening k _ grew, failed, holds_of_unbound (unbound_after (drops_binding drops) unbound),
      holds_of_unbound unbound, Nat.add_zero]

theorem unbound_of_shut (sound : s.Sound w) (shut : ∀ d, s.binding w = some d → ¬ d.ReadsOpen w) :
    s.binding w = none := by
  cases bound : s.binding w with
  | none => rfl
  | some d =>
      have relies := sound.bound d bound
      exact absurd (reads_open_of_pristine relies.opened relies.pristine) (shut d bound)

theorem balancing_rides (s : Session) : Rides (balancing s) s fun _ => True where
  drops _ _ sound shut drops :=
    ⟨sound_of_drops sound (unbound_of_shut sound shut) drops, balanced_of_drops (unbound_of_shut sound shut) drops⟩
  found _ _ _ _ := trivial
  binds _ _ _ sound shut binds :=
    ⟨trivial, sound_of_binds sound binds, balanced_of_binds (unbound_of_shut sound shut) binds⟩
  releases _ _ _ sound bound releases :=
    ⟨sound_of_releases sound bound releases, balanced_of_releases sound bound releases⟩

def Manner.Harmless (m : Manner) (s : Session) : Prop :=
  ∀ {α : Type} (a : Action α), m.own a → ∀ w, Spares s (fun call => call.closes = false) w (a.after w)

theorem balancing_governs {m : Manner} (harmless : m.Harmless s) : Governs (balancing s) m s fun _ => True where
  own a own w sound := spares_balanced sound (harmless a own w) fun _ closeless => closeless
  works a held _ works := by
    refine acts_balancing (fun call meets => ?_) works
    obtain ⟨c, _, work⟩ := meets
    exact (Call.work_on call work).2
  holding _ kept := holding_rides (balancing_rides s) kept
  transact _ savepoint kept := transact_rides (balancing_rides s) fun c fit =>
    scope_kept set_scope_balancing (fun _ => on_balancing) (kept c fit) savepoint
  write _ kept := holding_rides (balancing_rides s) fun c fit => written_kept (fun _ => on_balancing) (kept c fit)
  close _ := close_rides (balancing_rides s)

end SqlScope
