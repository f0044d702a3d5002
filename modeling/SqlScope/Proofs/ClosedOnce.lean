import SqlScope.Proofs.Trace

set_option autoImplicit false

namespace SqlScope

open SqlScope.Action

variable {α β : Type} {s : Session} {c : Connection} {w w' : World}

theorem mem_between {P : Call → Prop} {party : Party} (grew : Grew P w w') {e : Party × Event}
    (member : e ∈ between party w w') : e.1 = party ∧ e.2.Meets P := by
  obtain ⟨added, grown, meets⟩ := grew
  rw [between_of_grown grown] at member
  obtain ⟨event, found, rfl⟩ := List.mem_map.mp member
  exact ⟨rfl, meets event (List.mem_reverse.mp found)⟩

theorem meets_of_raw {P : Call → Prop} {e : Event} {k : RawConnection} (meets : e.Meets P)
    (on : e.raw? = some k) : ∃ made : Call, P made ∧ made.raw? = some k ∧ e.closes = made.closes := by
  cases e with
  | call made fault => exact ⟨made, meets, on, rfl⟩
  | _ => cases on

theorem traces_between {P : Call → Prop} (party : Party) (grew : Grew P w w') (opened : w.opened ≤ w'.opened)
    (bound : ∀ c, s.binding w' = some c → s.binding w = some c ∨ w.opened ≤ c.raw.index)
    (spares : ∀ call, P call → call.closes = false)
    (reach : ∀ call k, P call → party = .layer → call.raw? = some k →
      (s.binding w).map Connection.raw = some k ∨ w.opened ≤ k.index) :
    Traces s w w' (between party w w') := by
  have kept : ∀ e ∈ between party w w', ∀ k, e.2.closes = true → e.2.raw? ≠ some k := by
    intro e member k closes on
    obtain ⟨made, meets, _, same⟩ := meets_of_raw (mem_between grew member).2 on
    rw [same, spares made meets] at closes
    cases closes
  refine ⟨?_, opened, bound, ?_, ?_, ?_⟩
  · obtain ⟨added, grown, _⟩ := grew
    exact between_history party grown
  · intro e member k isLayer on
    obtain ⟨same, meets⟩ := mem_between grew member
    obtain ⟨made, holds, there, _⟩ := meets_of_raw meets on
    exact reach made k holds (same.symm.trans isLayer) there
  · intro e member k closes on
    exact absurd on (kept e member k closes)
  · refine List.Pairwise.imp_of_mem ?_ (List.pairwise_of_forall (R := fun _ _ => True) fun _ _ => trivial)
    intro e e' member _ _ k closes on
    exact absurd on (kept e member k closes)

def onto (s : Session) (k : RawConnection) : Law where
  inv _ := True
  rel w w' := Grew (Call.On k) w w' ∧ s.binding w' = s.binding w ∧ w'.opened = w.opened
  refl _ := ⟨grew_same rfl, rfl, rfl⟩
  trans _ _ _ first second :=
    ⟨grew_trans first.1 second.1, second.2.1.trans first.2.1, second.2.2.trans first.2.2⟩

theorem on_onto {k : RawConnection} {a : Action α} (kept : (acting (Call.On k)).Kept a) : (onto s k).Kept a :=
  kept_weaken kept (fun _ _ => trivial) fun _ _ _ acts =>
    ⟨trivial, acts.grew, congrArg SessionState.binding (acts.sessions s.index), acts.opened⟩

theorem set_scope_onto (k : RawConnection) (b : Bool) : (onto s k).Kept (s.setScope b) := fun w _ =>
  ⟨trivial, grew_same rfl, set_scope_binding s b w, rfl⟩

theorem traces_of_onto (bound : s.binding w = some c) (moved : (onto s c.raw).rel w w') :
    Traces s w w' (between .layer w w') := by
  obtain ⟨grew, same, opened⟩ := moved
  refine traces_between .layer grew (Nat.le_of_eq opened.symm) ?_ (fun _ on => on.2) ?_
  · intro d isBound
    exact Or.inl (same.symm.trans isBound)
  · intro call k on _ there
    rw [bound]
    exact Or.inl (on.1.symm.trans there)

theorem pairwise_of_count {p : Event → Bool} {l : List Event} (one : l.countP p ≤ 1) :
    l.Pairwise fun e e' => p e = true → p e' = false := by
  induction l with
  | nil => exact List.Pairwise.nil
  | cons e rest ih =>
      rw [List.countP_cons] at one
      refine List.Pairwise.cons ?_ (ih (by omega))
      intro e' member found
      rw [if_pos found] at one
      exact Bool.eq_false_iff.mpr (List.countP_eq_zero.mp (by omega) e' member)

theorem calls_of_closing {lent : Bool} {k j : RawConnection} {e : Event} (closing : e.Meets (Call.Closing lent k))
    (on : e.raw? = some j) : j = k ∧ e.calls (Call.ends lent k) = true := by
  cases e with
  | call made fault =>
      have ends := closing.2 j on
      exact ⟨Option.some.inj (on.symm.trans (raw_of_ends ends)), ends⟩
  | _ => cases on

theorem last_of_closing {lent : Bool} {k : RawConnection} {added : List Event}
    (grown : w'.history = added ++ w.history) (closing : ∀ e ∈ added, e.Meets (Call.Closing lent k))
    (one : added.countP (Event.calls (Call.ends lent k)) = 1) : ClosingLast (between .layer w w') := by
  rw [ClosingLast, between_of_grown grown, List.pairwise_map, List.pairwise_reverse]
  refine List.Pairwise.imp_of_mem ?_ (pairwise_of_count (Nat.le_of_eq one))
  intro e' e member' member apart j _ on _ on'
  have first := (calls_of_closing (closing e' member') on').2
  have second := (calls_of_closing (closing e member) on).2
  rw [apart first] at second
  cases second

theorem traces_of_releases (relies : s.Relies c w) (bound : s.binding w = some c) (releases : Releases s c w w') :
    Traces s w w' (between .layer w w') := by
  have closes := releases.rest
  have unbound := rebinds_binding releases
  have opened : w'.opened = w.opened := closes.opened
  have grew : Grew (Call.Closing c.isLent c.raw) w w' := closes.grew
  obtain ⟨added, there, closing⟩ := closes.grew
  have grown : w'.history = added ++ w.history := there
  have one : added.countP (Event.calls (Call.ends c.isLent c.raw)) = 1 := by
    have ended : World.count _ w' = _ := closes.ended relies.pristine
    rw [World.count, World.count, grown, List.countP_append] at ended
    omega
  refine ⟨between_history .layer grown, Nat.le_of_eq opened.symm, ?_, ?_, ?_, last_of_closing grown closing one⟩
  · intro d absurd
    rw [unbound] at absurd
    cases absurd
  · intro e member k _ on
    obtain ⟨rfl, _⟩ := calls_of_closing (mem_between grew member).2 on
    rw [bound]
    exact Or.inl rfl
  · intro e member k _ on
    obtain ⟨rfl, _⟩ := calls_of_closing (mem_between grew member).2 on
    rw [unbound, opened]
    exact ⟨relies.index, fun absurd => by cases absurd⟩

-- A traced part of a run: its trace, a session that is sound again, and the binding as it was.
structure Traced (s : Session) (w w' : World) (t : Trace) : Prop extends Traces s w w' t where
  sound : s.Sound w'
  steady : s.binding w' = s.binding w

theorem traced_append {u v : World} {t t' : Trace} (first : Traced s u v t) (second : Traced s v w t') :
    Traced s u w (t ++ t') :=
  ⟨traces_append first.toTraces second.toTraces, second.sound, second.steady.trans first.steady⟩

theorem traced_of_onto (sound : s.Sound w') (bound : s.binding w = some c) (moved : (onto s c.raw).rel w w') :
    Traced s w w' (between .layer w w') :=
  ⟨traces_of_onto bound moved, sound, moved.2.1⟩

def Steps (s : Session) (c : Connection) {α : Type} (a : Action α) : Prop :=
  (balancing s).Kept a ∧ (onto s c.raw).Kept a

theorem traced_of_steps {a : Action α} (steps : Steps s c a) (sound : s.Sound w) (bound : s.binding w = some c) :
    Traced s w (a.after w) (between .layer w (a.after w)) :=
  traced_of_onto (steps.1 w sound).1 bound (steps.2 w trivial).2

theorem traced_around {enter : Action β} {op : Action α} {shown : World → Trace} {whole : Action α}
    (sound : s.Sound w) (bound : s.binding w = some c) (enters : Steps s c enter)
    (inner : ∀ w₁, s.Sound w₁ → s.binding w₁ = some c → Traced s w₁ (op.after w₁) (shown w₁))
    (leaves : ∀ b w₁, enter w = .ok b w₁ → ∃ close : Except Failure α → Action α,
      whole w = (outcome op >>= close) w₁ ∧ ∀ r, Steps s c (close r))
    (refused : ∀ f w₁, enter w = .error f w₁ → ∃ close : Action α, whole w = close w₁ ∧ Steps s c close) :
    Traced s w (whole.after w) (around enter (fun _ => op) (fun _ => shown) whole w) := by
  have first := traced_of_steps enters sound bound
  have moved := (enters.2 w trivial).2
  unfold around
  cases entered : enter w with
  | ok b w₁ =>
      rw [after_of_ok entered] at first
      obtain ⟨close, run, steps⟩ := leaves b w₁ entered
      obtain ⟨r, ended⟩ := after_outcome_bind (β := α) op w₁
      have second := inner w₁ first.sound (first.steady.trans bound)
      have third := traced_of_steps (steps r) second.sound (second.steady.trans (first.steady.trans bound))
      have last : whole.after w = (close r).after (op.after w₁) := by
        rw [Action.after, run, ended]
        rfl
      rw [last]
      exact traced_append (traced_append first second) third
  | error f w₁ =>
      rw [after_of_error entered] at first moved
      obtain ⟨close, run, steps⟩ := refused f w₁ entered
      have last : whole.after w = close.after w₁ := by
        rw [Action.after, run]
        rfl
      rw [last]
      exact traced_of_onto (steps.1 w₁ first.sound).1 bound
        ((onto s c.raw).trans _ _ _ moved (steps.2 w₁ trivial).2)

theorem on_steps {a : Action α} (kept : (acting (Call.On c.raw)).Kept a) : Steps s c a :=
  ⟨on_balancing kept, on_onto kept⟩

theorem steps_bind {a : Action α} {f : α → Action β} (first : Steps s c a) (rest : ∀ v, Steps s c (f v)) :
    Steps s c (a >>= f) :=
  ⟨kept_bind first.1 fun v => (rest v).1, kept_bind first.2 fun v => (rest v).2⟩

theorem set_scope_steps (b : Bool) : Steps s c (s.setScope b) := ⟨set_scope_balancing b, set_scope_onto _ b⟩

theorem traced_scope {op : Connection → Action α} {shown : World → Trace} (savepoint : Value)
    (sound : s.Sound w) (bound : s.binding w = some c)
    (inner : ∀ w₁, s.Sound w₁ → s.binding w₁ = some c → Traced s w₁ ((op c).after w₁) (shown w₁)) :
    Traced s w ((s.scope op savepoint c).after w)
      (around (s.begins savepoint c) (fun _ => op c) (fun _ => shown) (s.scope op savepoint c) w) := by
  refine traced_around sound bound ?_ inner (fun name w₁ begun => ?_) fun f w₁ refused => ?_
  · exact steps_bind (set_scope_steps true) fun _ => on_steps (begins_acts c savepoint)
  · refine ⟨s.concludes c name, scope_of_begun begun op, fun r => ?_⟩
    have concludes := concludes_acts c name r
    exact ⟨kept_ensuring (set_scope_balancing false) (on_balancing concludes),
      kept_ensuring (set_scope_onto _ false) (on_onto concludes)⟩
  · refine ⟨_, scope_of_refused refused op, steps_bind (set_scope_steps false) fun _ => ?_⟩
    exact ⟨kept_throw f, kept_throw f⟩

theorem traced_written {body : Connection → Action α} {shown : World → Trace}
    (sound : s.Sound w) (bound : s.binding w = some c)
    (inner : ∀ w₁, s.Sound w₁ → s.binding w₁ = some c → Traced s w₁ ((body c).after w₁) (shown w₁)) :
    Traced s w ((s.written body c).after w)
      (around (pure ()) (fun _ => body c) (fun _ => shown) (s.written body c) w) := by
  refine traced_around (β := Unit) sound bound ⟨kept_pure (), kept_pure ()⟩ inner (fun _ w₁ entered => ?_) fun f w₁ absurd => ?_
  · cases entered
    refine ⟨_, rfl, fun r => ?_⟩
    cases r with
    | ok v => exact steps_bind (on_steps (commit_write_acts s c)) fun _ => ⟨kept_pure v, kept_pure v⟩
    | error f => exact steps_bind (on_steps (undo_write_acts s c)) fun _ => ⟨kept_throw f, kept_throw f⟩
  · cases absurd

theorem opening_calls {call : Call} (opens : call.opens = true) : call.closes = false ∧ call.raw? = none := by
  cases call <;> simp_all [Call.opens, Call.closes, Call.raw?]

theorem traces_of_opening (opening : Opening w { w' with sessions := w.sessions })
    (bound : ∀ c, s.binding w' = some c → w.opened ≤ c.raw.index) : Traces s w w' (between .layer w w') := by
  refine traces_between .layer opening.grew opening.opened (fun c isBound => Or.inr (bound c isBound))
    (fun call opens => (opening_calls opens).1) fun call k opens _ there => ?_
  rw [(opening_calls opens).2] at there
  cases there

theorem traced_holding {body : Connection → Action α} {shown : Connection → World → Trace} (sound : s.Sound w)
    (inner : ∀ c w₁, s.Sound w₁ → s.binding w₁ = some c → Traced s w₁ ((body c).after w₁) (shown c w₁)) :
    Traced s w ((s.holding body).after w) (around s.entry body shown (s.holding body) w) := by
  unfold around
  rcases holding_cases s w with
    ⟨f, w₁, entered, drops, shut, run⟩ | ⟨c, entered, bound, _, run⟩ | ⟨c, w₁, entered, binds, shut, run⟩
  · have unbound := unbound_of_shut sound shut
    have still := unbound_after (drops_binding drops) unbound
    rw [entered, after_of_error (run body)]
    refine ⟨traces_of_opening drops.rest.toOpening fun c absurd => ?_, sound_of_drops sound unbound drops,
      still.trans unbound.symm⟩
    rw [still] at absurd
    cases absurd
  · have whole : (s.holding body).after w = (body c).after w := congrArg worldOf (run body)
    have traced := inner c w sound bound
    have first := traced_of_onto sound bound ((onto s c.raw).refl w)
    have third := traced_of_onto traced.sound (traced.steady.trans bound) ((onto s c.raw).refl _)
    rw [entered, whole]
    exact traced_append (traced_append first traced) third
  · have unbound := unbound_of_shut sound shut
    have isBound := rebinds_binding binds
    have sound₁ := sound_of_binds sound binds
    have traced := inner c w₁ sound₁ isBound
    have held : s.binding (worldOf (body c w₁)) = some c := traced.steady.trans isBound
    have releases := finish_of_bound held
    have first : Traces s w w₁ (between .layer w w₁) := by
      apply traces_of_opening binds.rest.toOpening
      intro d bound
      have same : c = d := Option.some.inj (isBound.symm.trans bound)
      have new := congrArg RawConnection.index binds.rest.raw
      exact Nat.le_of_eq (same ▸ new.symm)
    have third := traces_of_releases (traced.sound.bound c held) held releases
    have whole : (s.holding body).after w = worldOf (s.finish c (body c w₁)) := congrArg worldOf (run body)
    rw [entered, whole]
    exact ⟨traces_append (traces_append first traced.toTraces) third, sound_of_releases traced.sound held releases,
      (rebinds_binding releases).trans unbound.symm⟩

theorem traced_of_spares {P : Call → Prop} (party : Party) (spares : Spares s P w w')
    (closeless : ∀ call, P call → call.closes = false)
    (reach : ∀ call k, P call → party = .layer → call.raw? = some k → (s.binding w).map Connection.raw = some k)
    (sound : s.Sound w) : Traced s w w' (between party w w') := by
  have same : s.binding w' = s.binding w := congrArg SessionState.binding spares.record
  refine ⟨?_, (spares_balanced sound spares closeless).1, same⟩
  refine traces_between party spares.grew (Nat.le_of_eq spares.opened.symm) ?_ closeless ?_
  · exact fun c bound => Or.inl (same.symm.trans bound)
  · exact fun call k meets isLayer there => Or.inl (reach call k meets isLayer there)

theorem around_congr {enter : Action β} {op : β → Action α} {shown : β → World → Trace} {γ : Type}
    {whole whole' : Action γ} (same : whole w = whole' w) :
    around enter op shown whole w = around enter op shown whole' w := by
  unfold around Action.after
  rw [same]

theorem run_traced {m : Manner} (harmless : m.Harmless s) (opens : ¬ m.closes) {x : Routine α}
    {held : Option RawConnection} (keeps : x.Keeps m s held) (sound : s.Sound w)
    (lent : ∀ k, held = some k → (s.binding w).map Connection.raw = some k) :
    Traced s w ((x.run s).after w) (x.trace s w) := by
  have given : ∀ (c : Connection) (w₁ : World), s.binding w₁ = some c →
      ∀ k, some c.raw = some k → (s.binding w₁).map Connection.raw = some k := by
    rintro c w₁ bound k same
    rw [bound]
    exact same
  induction x generalizing held w with
  | act party a =>
      cases party with
      | layer =>
          refine traced_of_spares .layer (spares_of_acts (keeps w trivial).2) ?_ ?_ sound
          · rintro call ⟨c, _, work⟩
            exact (Call.work_on call work).2
          · rintro call k ⟨c, here, work⟩ _ there
            exact lent k (here.trans ((Call.work_on call work).1.symm.trans there))
      | client =>
          exact traced_of_spares .client (harmless a keeps w) (fun _ closeless => closeless)
            (fun _ _ _ absurd => by cases absurd) sound
  | next x k ihx ihk =>
      have first := ihx keeps.1 sound lent
      rw [Routine.trace, Routine.run]
      cases ran : x.run s w with
      | ok v w₁ =>
          rw [after_of_ok ran] at first
          rw [after_bind_of_ok ran]
          refine traced_append first (ihk v (keeps.2 w v w₁ ran) first.sound fun j here => ?_)
          rw [first.steady]
          exact lent j here
      | error f w₁ =>
          rw [after_of_error ran] at first
          rw [after_of_error (bind_of_error ran), List.append_nil]
          exact first
  | caught x ih =>
      rw [Routine.trace, Routine.run, after_outcome]
      exact ih keeps sound lent
  | holding op ih =>
      exact traced_holding sound fun c w₁ sound₁ bound => ih c (keeps c) sound₁ (given c w₁ bound)
  | transact op savepoint ih =>
      rw [Routine.trace, Routine.run]
      cases inside : s.inScope w with
      | true =>
          rw [if_pos rfl, after_of_error (transact_in_scope inside _ savepoint)]
          exact ⟨traces_nil s w, sound, rfl⟩
      | false =>
          have run := transact_outside inside (fun c => (op c).run s) savepoint
          have after : (s.transact (fun c => (op c).run s) savepoint).after w = _ := congrArg worldOf run
          rw [if_neg (fun absurd => by cases absurd), around_congr run, after]
          apply traced_holding sound
          intro c w₁ sound₁ bound
          apply traced_scope savepoint sound₁ bound
          intro w₂ sound₂ bound₂
          exact ih c (keeps c) sound₂ (given c w₂ bound₂)
  | write body ih =>
      rw [Routine.trace, Routine.run, write_eq]
      apply traced_holding sound
      intro c w₁ sound₁ bound
      apply traced_written sound₁ bound
      intro w₂ sound₂ bound₂
      exact ih c (keeps c) sound₂ (given c w₂ bound₂)
  | close => exact absurd keeps opens

-- The client uses connections as it likes, but opens and closes none itself and does not touch how they
-- read as closed or what a proxy stands for. Whether it closes the session is left open.
def Manner.sparing (s : Session) (closes : Prop) : Manner where
  own a := ∀ w, Spares s (fun call => call.closes = false) w (a.after w)
  text _ := True
  closes := closes

theorem harmless_apart {m : Manner} (harmless : m.Harmless s) : m.Apart s :=
  fun a own w => (harmless a own w).record

theorem start_sound (s : Session) {connections : List RawConnectionState} (pool : PoolState) (rewinds : Nat)
    (scripted : ∀ t ∈ connections, Reading.IsOpen (t.attributes.get? "closed")) :
    s.Sound (World.start connections pool rewinds) where
  bound _ absurd := by cases absurd
  ahead c _ := by
    change Reading.IsOpen ((connections[c.index]?.getD default).attributes.get? "closed")
    cases found : connections[c.index]? with
    | none => exact rfl
    | some t => exact scripted t (List.mem_of_getElem? found)
  unused _ _ := rfl

-- Opened without a fault is what the source returned. A failing closing call counts like any other.
theorem connections_closed_exactly_once (s : Session) (connections : List RawConnectionState) (pool : PoolState)
    (rewinds : Nat) (scripted : ∀ t ∈ connections, Reading.IsOpen (t.attributes.get? "closed"))
    {closes : Prop} (x : Routine α) (keeps : x.Keeps (.sparing s closes) s none) :
    let w := World.start connections pool rewinds
    let w' := (x.run s).after w
    (∀ k : RawConnection, w'.count (Call.ends s.source.lends k) =
      if k.index < w'.opened ∧ (w.connections.get k.index).openFault = none then 1 else 0) ∧
    (¬ closes → w'.history = ((x.trace s w).map Prod.snd).reverse ∧ ClosingLast (x.trace s w)) := by
  intro w w'
  have harmless : (Manner.sparing s closes).Harmless s := fun _ own => own
  have sound : s.Sound w := start_sound s pool rewinds scripted
  have idle : s.Idle w := ⟨rfl, rfl⟩
  have unbound := (idle_of_settles idle (run_settles (harmless_apart harmless) keeps w)).unbound
  obtain ⟨_, balanced⟩ := run_kept (balancing_governs harmless) (fun _ _ => trivial) keeps w sound
  refine ⟨fun k => ?_, fun opens => ?_⟩
  · have balance := balanced.balance k
    rw [holds_of_unbound idle.unbound, holds_of_unbound unbound] at balance
    have none : w.count (Call.ends s.source.lends k) = 0 := rfl
    have zero : w.opened = 0 := rfl
    simp only [none, made, zero, Nat.zero_le, true_and, Nat.add_zero, Nat.zero_add] at balance
    exact balance
  · have traced := run_traced harmless opens keeps sound fun _ absurd => by cases absurd
    have history := traced.history
    have empty : w.history = [] := rfl
    rw [empty, List.append_nil] at history
    exact ⟨history, traced.last⟩

-- The callback is interrupted, and the connection fails to close.
theorem closed_once_after_interrupt :
    let s : Session := ⟨0, .plain⟩
    let refusing : RawConnectionState := { (default : RawConnectionState) with closeFaults := [some (Kind.driver.fault "gone")] }
    let x : Routine Unit := .holding fun _ => .act .client (throw (Kind.interrupt.failure "stop"))
    let w := World.start [refusing] default 0
    ((x.run s).after w).count (Call.ends false ⟨0⟩) = 1 ∧ ClosingLast (x.trace s w) := by
  intro s refusing x w
  have scripted : ∀ t ∈ [refusing], Reading.IsOpen (t.attributes.get? "closed") := by
    intro t member
    cases List.mem_singleton.mp member
    exact rfl
  have keeps : x.Keeps (.sparing s False) s none := fun _ _ =>
    ⟨rfl, rfl, Nat.le_refl _, fun _ => rfl, fun _ => rfl, grew_same rfl⟩
  obtain ⟨counts, last⟩ := connections_closed_exactly_once s [refusing] default 0 scripted x keeps
  exact ⟨(counts ⟨0⟩).trans (if_pos ⟨Nat.le_refl 1, rfl⟩), (last id).2⟩

end SqlScope
