import SqlScope.Proofs.Governs

set_option autoImplicit false

namespace SqlScope

open SqlScope.Action

variable {α : Type} {s : Session} {c : Connection} {w w' : World}

theorem rebinds_binding {b : Option Connection} {rel : World → World → Prop}
    (rebinds : Rebinds s b rel w w') : s.binding w' = b := by
  rw [Session.binding, rebinds.sessions, if_pos rfl]

theorem rebinds_in_scope {b : Option Connection} {rel : World → World → Prop}
    (rebinds : Rebinds s b rel w w') : s.inScope w' = s.inScope w := by
  rw [Session.inScope, rebinds.sessions, if_pos rfl]
  rfl

theorem drops_binding (drops : Drops s w w') : s.binding w' = s.binding w ∨ s.binding w' = none := by
  rcases drops.sessions s.index with same | ⟨_, gone⟩
  · exact Or.inl (congrArg SessionState.binding same)
  · exact Or.inr (congrArg SessionState.binding gone)

theorem bound_before (left : s.binding w' = s.binding w ∨ s.binding w' = none) (bound : s.binding w' = some c) :
    s.binding w = some c := by
  rcases left with same | gone
  · exact same.symm.trans bound
  · rw [gone] at bound
    cases bound

theorem unbound_after (left : s.binding w' = s.binding w ∨ s.binding w' = none) (unbound : s.binding w = none) :
    s.binding w' = none := by
  rcases left with same | gone
  · exact same.trans unbound
  · exact gone

theorem drops_in_scope (drops : Drops s w w') : s.inScope w' = s.inScope w := by
  rcases drops.sessions s.index with same | ⟨_, gone⟩
  · exact congrArg SessionState.inTransaction same
  · rw [Session.inScope, gone]
    rfl

theorem finish_binding (r : EStateM.Result Failure World α) :
    s.binding (worldOf (s.finish c r)) = if s.binding (worldOf r) = some c then none else s.binding (worldOf r) := by
  by_cases bound : s.binding (worldOf r) = some c
  · rw [if_pos bound]
    exact rebinds_binding (finish_of_bound bound)
  · rw [if_neg bound, finish_of_other bound]

def unbinding (s : Session) : Law where
  inv _ := True
  rel w w' := s.binding w' = s.binding w ∨ s.binding w' = none
  refl _ := Or.inl rfl
  trans u v w first second := by
    rcases second with same | gone
    · rw [same]
      exact first
    · exact Or.inr gone

def scoping (s : Session) (b : Bool) : Law where
  inv w := s.inScope w = b
  rel _ _ := True
  refl _ := trivial
  trans _ _ _ _ _ := trivial

def Manner.Apart (m : Manner) (s : Session) : Prop :=
  ∀ {α : Type} (a : Action α), m.own a → ∀ w, (a.after w).sessions.get s.index = w.sessions.get s.index

theorem holding_unbinding {body : Connection → Action α} (kept : ∀ c, (unbinding s).Kept (body c)) :
    (unbinding s).Kept (s.holding body) := by
  intro w _
  refine ⟨trivial, ?_⟩
  rcases holding_cases s w with ⟨f, w₁, _, drops, _, run⟩ | ⟨c, _, _, _, run⟩ | ⟨c, w₁, _, binds, _, run⟩
  · rw [after_of_error (run body)]
    exact drops_binding drops
  · rw [Action.after, run body]
    exact (kept c w trivial).2
  · -- Bound here, the connection is still bound after the body, or nothing is.
    right
    rw [Action.after, run body, finish_binding]
    rcases (kept c w₁ trivial).2 with same | gone
    · exact if_pos (same.trans (rebinds_binding binds))
    · change s.binding (worldOf (body c w₁)) = none at gone
      rw [gone]
      exact if_neg (fun absurd => by cases absurd)

theorem scoping_rides (s : Session) (b : Bool) : Rides (scoping s b) s fun _ => True where
  drops _ _ inside _ drops := ⟨(drops_in_scope drops).trans inside, trivial⟩
  found _ _ _ _ := trivial
  binds _ _ _ inside _ binds := ⟨trivial, (rebinds_in_scope binds).trans inside, trivial⟩
  releases _ _ _ inside _ releases := ⟨(rebinds_in_scope releases).trans inside, trivial⟩

theorem acts_unbinding {P : Call → Prop} {a : Action α} (kept : (acting P).Kept a) : (unbinding s).Kept a :=
  kept_weaken kept (fun _ _ => trivial) fun _ _ _ acts =>
    ⟨trivial, Or.inl (congrArg SessionState.binding (acts.sessions s.index))⟩

theorem acts_scoping {P : Call → Prop} {a : Action α} {b : Bool} (kept : (acting P).Kept a) :
    (scoping s b).Kept a :=
  kept_weaken kept (fun _ _ => trivial) fun _ _ inside acts =>
    ⟨(congrArg SessionState.inTransaction (acts.sessions s.index)).trans inside, trivial⟩

theorem set_scope_unbinding (b : Bool) : (unbinding s).Kept (s.setScope b) := fun w _ =>
  ⟨trivial, Or.inl (set_scope_binding s b w)⟩

theorem unbinding_governs {m : Manner} (apart : m.Apart s) : Governs (unbinding s) m s fun _ => True where
  own a own w _ := ⟨trivial, Or.inl (congrArg SessionState.binding (apart a own w))⟩
  works _ _ _ works := acts_unbinding works
  holding _ kept := holding_unbinding fun c => kept c trivial
  transact op savepoint kept w _ := by
    cases inside : s.inScope w with
    | true =>
        rw [after_of_error (transact_in_scope inside op savepoint)]
        exact ⟨trivial, Or.inl rfl⟩
    | false =>
        rw [Action.after, transact_outside inside]
        exact holding_unbinding (fun c => scope_kept set_scope_unbinding (fun _ => acts_unbinding) (kept c trivial) savepoint) w trivial
  write body kept := holding_unbinding fun c => written_kept (fun _ => acts_unbinding) (kept c trivial)
  close _ w _ := by
    cases bound : s.binding w with
    | none =>
        rw [after_of_ok (session_close_of_unbound bound)]
        exact ⟨trivial, Or.inl rfl⟩
    | some c => exact ⟨trivial, Or.inr (rebinds_binding (session_close_of_bound bound))⟩

theorem scoping_governs {m : Manner} (apart : m.Apart s) (b : Bool) :
    Governs (scoping s b) m s fun _ => True where
  own a own w inside := ⟨(congrArg SessionState.inTransaction (apart a own w)).trans inside, trivial⟩
  works _ _ _ works := acts_scoping works
  holding _ kept := holding_rides (scoping_rides s b) kept
  transact op savepoint kept w inside := by
    cases b with
    | true =>
        rw [after_of_error (transact_in_scope inside op savepoint)]
        exact ⟨inside, trivial⟩
    | false =>
        rw [Action.after, transact_outside inside]
        refine holding_rides (scoping_rides s false) (fun c _ u _ => ⟨?_, trivial⟩) w inside
        rw [scope_after]
        exact set_scope_in_scope s false _
  write body kept := holding_rides (scoping_rides s b) fun c fit => written_kept (fun _ => acts_scoping) (kept c fit)
  close _ := close_rides (scoping_rides s b)

structure Settles (s : Session) (w w' : World) : Prop where
  binding : s.binding w' = s.binding w ∨ s.binding w' = none
  scope : s.inScope w' = s.inScope w

structure Session.Idle (s : Session) (w : World) : Prop where
  unbound : s.binding w = none
  outside : s.inScope w = false

theorem run_settles {m : Manner} (apart : m.Apart s) {x : Routine α} {held : Option RawConnection}
    (keeps : x.Keeps m s held) (w : World) : Settles s w ((x.run s).after w) :=
  ⟨(run_kept (unbinding_governs apart) (fun _ _ => trivial) keeps w trivial).2,
    (run_kept (scoping_governs apart (s.inScope w)) (fun _ _ => trivial) keeps w rfl).1⟩

theorem idle_of_settles (idle : s.Idle w) (settles : Settles s w w') : s.Idle w' where
  unbound := unbound_after settles.binding idle.unbound
  outside := settles.scope.trans idle.outside

-- Anything may happen in a callback but a change of the record of the session behind its back.
def Manner.outside (s : Session) : Manner where
  own a := ∀ w, (a.after w).sessions.get s.index = w.sessions.get s.index
  text _ := True
  closes := True

def Session.through (s : Session) (calls : List (Routine Unit)) (w : World) : World :=
  calls.foldl (fun u x => (x.run s).after u) w

theorem through_idle {calls : List (Routine Unit)} (keeps : ∀ x ∈ calls, x.Keeps (.outside s) s none)
    {w : World} (idle : s.Idle w) : s.Idle (s.through calls w) := by
  induction calls generalizing w with
  | nil => exact idle
  | cons x rest ih =>
      have settled := run_settles (m := .outside s) (fun a own => own) (keeps x List.mem_cons_self) w
      exact ih (fun y member => keeps y (List.mem_cons_of_mem x member)) (idle_of_settles idle settled)

theorem during_eq {source : Source} {body : Session → Routine α} {w : World}
    (keeps : ∀ t, (body t).Keeps (.outside t) t none) (idle : Session.Idle ⟨w.handles, source⟩ w) :
    Session.during source (fun t => (body t).run t) w =
      (body ⟨w.handles, source⟩).run ⟨w.handles, source⟩ { w with handles := w.handles + 1 } := by
  let t : Session := ⟨w.handles, source⟩
  let w₁ : World := { w with handles := w.handles + 1 }
  have made : Session.new source w = .ok t w₁ := rfl
  have idle₁ : t.Idle w₁ := ⟨idle.unbound, idle.outside⟩
  have idle₂ := idle_of_settles idle₁ (run_settles (m := .outside t) (fun a own => own) (keeps t) w₁)
  rw [Session.during, bind_of_ok made]
  change ensuring t.close ((body t).run t) w₁ = (body t).run t w₁
  cases ran : (body t).run t w₁ with
  | ok v w₂ =>
      rw [after_of_ok ran] at idle₂
      exact (bind_of_ok (outcome_of_ok ran)).trans (bind_of_ok (session_close_of_unbound idle₂.unbound))
  | error f w₂ =>
      rw [after_of_error ran] at idle₂
      exact (bind_of_ok (outcome_of_error ran)).trans (bind_of_ok (session_close_of_unbound idle₂.unbound))

-- At any depth a call leaves the binding or drops it, and leaves the flag. Between top-level calls the
-- session is idle, so that closing it, also at the end of its block, does nothing at all.
theorem session_idle_between_calls (s : Session) :
    (∀ {α : Type} (x : Routine α) (held : Option RawConnection), x.Keeps (.outside s) s held →
      ∀ w, Settles s w ((x.run s).after w)) ∧
    (∀ calls : List (Routine Unit), (∀ x ∈ calls, x.Keeps (.outside s) s none) →
      ∀ w, s.Idle w → s.Idle (s.through calls w) ∧
        s.close (s.through calls w) = .ok () (s.through calls w)) ∧
    (∀ {α : Type} (source : Source) (body : Session → Routine α),
      (∀ t, (body t).Keeps (.outside t) t none) → ∀ w, Session.Idle ⟨w.handles, source⟩ w →
        Session.during source (fun t => (body t).run t) w =
          (body ⟨w.handles, source⟩).run ⟨w.handles, source⟩ { w with handles := w.handles + 1 }) := by
  refine ⟨fun x held keeps w => run_settles (m := .outside s) (fun a own => own) keeps w, ?_, ?_⟩
  · intro calls keeps w idle
    have idle' := through_idle keeps idle
    exact ⟨idle', session_close_of_unbound idle'.unbound⟩
  · intro α source body keeps w idle
    exact during_eq keeps idle

-- A visitor that uses its session again, closes it, and is then interrupted.
def Session.interrupted (s : Session) (sql : String) : Action Unit := do
  let _ ← s.firstRecord sql fun _ => pure ()
  let _ ← s.runUpdate sql (fun _ => pure ()) fun _ => pure ()
  let _ ← s.runBatch sql none fun _ => pure ()
  let _ ← s.report
  s.withResults sql (fun _ => pure ()) fun _ => s.close
  throw (Kind.interrupt.failure "stop")

def Routine.interrupted (sql : String) : Routine Unit :=
  .next (.firstRecord sql fun _ => .done ()) fun _ =>
    .next (.update sql (fun _ => .done ()) fun _ => .done ()) fun _ =>
      .next (.batch sql none fun _ => .done ()) fun _ =>
        .next .report fun _ =>
          .next (.query sql (fun _ => .done ()) fun _ => .close) fun _ =>
            .act .client (throw (Kind.interrupt.failure "stop"))

theorem interrupted_runs (s : Session) (sql : String) : (Routine.interrupted sql).run s = s.interrupted sql := by
  simp only [Routine.interrupted, Routine.run, Routine.run_first_record, Routine.run_update, Routine.run_batch,
    Routine.run_report, Routine.run_query]
  rfl

theorem interrupted_keeps (sql : String) (held : Option RawConnection) :
    (Routine.interrupted sql).Keeps (.outside s) s held := by
  have none : ∀ c t, ((fun _ => Routine.done ()) t : Routine Unit).Keeps (.outside s) s (some c) :=
    fun _ (_ : Statement) => Routine.keeps_done ()
  refine Routine.keeps_next (Routine.keeps_first_record trivial none) fun _ => ?_
  refine Routine.keeps_next (Routine.keeps_update trivial none fun _ => Routine.keeps_done ()) fun _ => ?_
  refine Routine.keeps_next (Routine.keeps_batch trivial _ fun _ => Routine.keeps_done ()) fun _ => ?_
  refine Routine.keeps_next Routine.keeps_report fun _ => ?_
  exact Routine.keeps_next (Routine.keeps_query trivial none fun _ _ => trivial) fun _ _ => rfl

theorem session_idle_after_interrupt :
    let s : Session := ⟨0, .plain⟩
    let sql := "SELECT a FROM t"
    let found : Result :=
      { (default : Result) with description := .gives (some [.full (.text "a") .null]), rows := [[.int 1], [.int 2]] }
    let w := World.start [{ (default : RawConnectionState) with results := [found] }] default 0
    let scan (t : Session) : Action Unit := t.scan sql (fun _ => pure ()) (fun _ => pure ()) 0 0 fun _ => t.interrupted sql
    Settles s w ((scan s).after w) ∧
      s.Idle (((scan s).after ((scan s).after w))) ∧
      Session.during .plain scan w = scan ⟨w.handles, .plain⟩ { w with handles := w.handles + 1 } := by
  intro s sql found w scan
  let x : Routine Unit := .scan sql (fun _ => .done ()) (fun _ => .done ()) 0 0 fun _ => .interrupted sql
  have runs : ∀ t, x.run t = scan t := fun t => by
    rw [Routine.run_scan, interrupted_runs]
    rfl
  have keeps : ∀ t, x.Keeps (.outside t) t none := fun t =>
    Routine.keeps_scan trivial (fun _ _ => Routine.keeps_done ()) (fun _ _ => Routine.keeps_done ()) 0 0
      fun c _ => interrupted_keeps sql (some c)
  have idle : s.Idle w := ⟨rfl, rfl⟩
  obtain ⟨settles, through, during⟩ := session_idle_between_calls s
  have settled := settles x none (keeps s) w
  have twice := (through [x, x] (by simp [keeps]) w idle).1
  have held := during .plain (fun _ => x) keeps w idle
  simp only [Session.through, List.foldl_cons, List.foldl_nil, runs] at settled twice held
  exact ⟨settled, twice, held⟩

end SqlScope
