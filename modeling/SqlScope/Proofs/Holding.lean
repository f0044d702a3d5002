import SqlScope.Session
import SqlScope.Proofs.Probe

set_option autoImplicit false

namespace SqlScope

open SqlScope.Action

variable {α : Type}

def Session.binding (s : Session) (w : World) : Option Connection := (w.sessions.get s.index).binding

structure Rebinds (s : Session) (b : Option Connection) (rel : World → World → Prop) (w w' : World) : Prop where
  sessions : ∀ i, w'.sessions.get i =
    if i = s.index then { w.sessions.get i with binding := b } else w.sessions.get i
  rest : rel w { w' with sessions := w.sessions }

def Binds (s : Session) (c : Connection) : World → World → Prop := Rebinds s (some c) (Opens s.source c)

def Releases (s : Session) (c : Connection) : World → World → Prop := Rebinds s none (Closes c)

structure Drops (s : Session) (w w' : World) : Prop where
  sessions : ∀ i, w'.sessions.get i = w.sessions.get i ∨
    i = s.index ∧ w'.sessions.get i = { w.sessions.get i with binding := none }
  rest : Misses w { w' with sessions := w.sessions }

theorem session_state_ok (s : Session) (w : World) : s.state w = .ok (w.sessions.get s.index) w := rfl

theorem binding_put (s : Session) (b : Option Connection) (w : World) (i : Nat) :
    (w.sessions.put s.index { w.sessions.get s.index with binding := b }).get i =
      if i = s.index then { w.sessions.get i with binding := b } else w.sessions.get i := by
  rw [Table.get_put]
  by_cases same : s.index = i
  · subst same
    simp
  · rw [if_neg same, if_neg (Ne.symm same)]

theorem active_of_unbound {s : Session} {w : World} (unbound : s.binding w = none) :
    s.active? w = .ok none w := by
  unfold Session.binding at unbound
  rw [Session.active?, bind_of_ok (session_state_ok s w), unbound]
  rfl

-- A bound connection is probed. A probe that fails is noted and counts as closed, unless it asks to stop.
theorem active_of_bound {s : Session} {w : World} {c : Connection} (bound : s.binding w = some c) :
    s.active? w = onOrdinary
      (c.readOr "closed" (.bool false) >>= fun closed => pure (if closed.isTruthy then none else some c))
      (fun f => debug .session ("Connection state probe failed, treating as closed: " ++ f.text) >>= fun _ =>
        pure none) w := by
  unfold Session.binding at bound
  rw [Session.active?, bind_of_ok (session_state_ok s w), bound]

theorem active_of_open {s : Session} {w : World} {c : Connection} (bound : s.binding w = some c)
    (opens : c.ReadsOpen w) : s.active? w = .ok (some c) w := by
  obtain ⟨v, probe, falsy⟩ := opens
  rw [active_of_bound bound]
  refine on_ordinary_of_ok ((bind_of_ok probe).trans ?_)
  rw [falsy]
  rfl

theorem active_of_shut {s : Session} {w : World} {c : Connection} (bound : s.binding w = some c)
    (shut : ¬ c.ReadsOpen w) :
    s.active?.Ends w (fun r w' => r = none ∧ Opening w w' ∧ w'.opened = w.opened) (fun _ w' => w' = w) := by
  have same := read_or_still c "closed" (.bool false) w
  unfold Ends
  rw [active_of_bound bound]
  cases probe : c.readOr "closed" (.bool false) w with
  | ok v u =>
      rw [after_of_ok probe] at same
      subst same
      have truthy : v.isTruthy = true := by
        cases truthy : v.isTruthy with
        | true => rfl
        | false => exact absurd ⟨v, probe, truthy⟩ shut
      have found : (c.readOr "closed" (.bool false) >>= fun closed =>
          pure (if closed.isTruthy then none else some c) : Action (Option Connection)) u = .ok none u := by
        rw [bind_of_ok probe, truthy]
        rfl
      rw [on_ordinary_of_ok found]
      exact ⟨rfl, opening_refl u, rfl⟩
  | error f u =>
      rw [after_of_error probe] at same
      subst same
      rw [on_ordinary_of_error (bind_of_error probe)]
      by_cases ordinary : f.isOrdinary
      · rw [if_pos ordinary]
        exact ⟨rfl, debug_opening .session _ u, rfl⟩
      · rw [if_neg ordinary]

theorem discard_run (s : Session) (w : World) :
    ∃ w', s.discard w = .ok () w' ∧ Rebinds s none (fun u v => Opening u v ∧ v.opened = u.opened) w w' := by
  cases bound : s.binding w with
  | none =>
      refine ⟨w, ?_, ?_, opening_refl w, rfl⟩
      · change (if (s.binding w).isSome then _ else pure () : Action Unit) w = _
        rw [bound]
        rfl
      · intro i
        by_cases same : i = s.index
        · subst same
          rw [if_pos rfl]
          unfold Session.binding at bound
          cases state : w.sessions.get s.index with
          | mk b t => rw [state] at bound; cases bound; rfl
        · rw [if_neg same]
  | some c =>
      let w₁ := (debug .session "Discarding closed connection").after w
      refine ⟨{ w₁ with sessions := w.sessions.put s.index { w.sessions.get s.index with binding := none } },
        ?_, binding_put s none w, debug_opening _ _ w, rfl⟩
      change (if (s.binding w).isSome then _ else pure () : Action Unit) w = _
      rw [bound]
      rfl

theorem acquire_ends (s : Session) (w : World) :
    s.acquire.Ends w (fun c w' => Binds s c w w') (fun _ w' => Drops s w w') := by
  obtain ⟨v, run, sessions, opening, opened⟩ := discard_run s w
  unfold Ends
  rw [Session.acquire, bind_of_ok run]
  refine ends_bind (ends_mono (create_ends s.source v) (fun c u opens => ?_) (fun f u missed => ?_))
  · let w₁ := { u with sessions := u.sessions.put s.index { u.sessions.get s.index with binding := some c } }
    have bound : ∀ i, w₁.sessions.get i =
        if i = s.index then { w.sessions.get i with binding := some c } else w.sessions.get i := by
      intro i
      rw [binding_put s (some c) u i, opens.sessions, sessions]
      by_cases same : i = s.index
      · simp only [if_pos same]
      · simp only [if_neg same]
    have logged := debug_opening .session "Bound new connection" w₁
    have apart : Opens s.source c { v with sessions := w.sessions } { u with sessions := w.sessions } :=
      { opens with sessions := fun _ => rfl }
    have opens' := opens_after_quiet opening opened apart
    exact ⟨bound, { opens' with
      sessions := fun _ => rfl
      grew := grew_trans opens'.grew logged.grew }⟩
  · have apart : Misses { v with sessions := w.sessions } { u with sessions := w.sessions } :=
      { missed with sessions := fun _ => rfl }
    have missed' := misses_after_quiet opening opened apart
    refine ⟨fun i => ?_, { missed' with sessions := fun _ => rfl }⟩
    rw [missed.sessions, sessions]
    by_cases same : i = s.index
    · exact Or.inr ⟨same, if_pos same⟩
    · exact Or.inl (if_neg same)

theorem active_of_unbound_or_shut {s : Session} {w : World}
    (shut : ∀ d, s.binding w = some d → ¬ d.ReadsOpen w) :
    s.active?.Ends w (fun r w' => r = none ∧ Opening w w' ∧ w'.opened = w.opened) (fun _ w' => w' = w) := by
  cases bound : s.binding w with
  | none =>
      unfold Ends
      rw [active_of_unbound bound]
      exact ⟨rfl, opening_refl w, rfl⟩
  | some c => exact active_of_shut bound (shut c bound)

theorem drops_refl (s : Session) (w : World) : Drops s w w :=
  ⟨fun _ => Or.inl rfl, misses_of_same (opening_refl w) rfl⟩

theorem drops_after_quiet {s : Session} {u v w : World} (quiet : Opening u v) (same : v.opened = u.opened)
    (drops : Drops s v w) : Drops s u w where
  sessions i := by
    rw [← quiet.sessions]
    exact drops.sessions i
  rest := { misses_after_quiet quiet same drops.rest with sessions := fun _ => rfl }

theorem binds_after_quiet {s : Session} {c : Connection} {u v w : World} (quiet : Opening u v)
    (same : v.opened = u.opened) (binds : Binds s c v w) : Binds s c u w where
  sessions i := by rw [binds.sessions, quiet.sessions]
  rest := { opens_after_quiet quiet same binds.rest with sessions := fun _ => rfl }

theorem let_go_of_bound {s : Session} {c : Connection} {w : World} (bound : s.binding w = some c) :
    s.letGo c w = .ok true
      { w with sessions := w.sessions.put s.index { w.sessions.get s.index with binding := none } } := by
  change (if s.binding w = some c then _ else pure false : Action Bool) w = _
  rw [if_pos bound]
  rfl

theorem let_go_of_other {s : Session} {c : Connection} {w : World} (other : s.binding w ≠ some c) :
    s.letGo c w = .ok false w := by
  change (if s.binding w = some c then _ else pure false : Action Bool) w = _
  rw [if_neg other]
  rfl

def Session.dropped (s : Session) (w : World) : World :=
  { w with sessions := w.sessions.put s.index { w.sessions.get s.index with binding := none } }

-- What closing leaves behind, and notes keep, holds when a connection was let go and closed.
section

variable {s : Session} {c : Connection} {w : World} {R : World → Prop}

theorem close_connection_ends (closes : c.close.Ends w (fun _ => R) (fun _ => R)) :
    (Session.closeConnection c).Ends w (fun _ => R) (fun _ => R) :=
  ends_rethrow closes

theorem release_ends (bound : s.binding w = some c) (closes : c.close.Ends (s.dropped w) (fun _ => R) (fun _ => R))
    (notes : ∀ channel severity text u, R u → R { u with history := .log channel severity text :: u.history }) :
    (s.release c).Ends w (fun _ => R) (fun _ => R) := by
  unfold Ends
  rw [Session.release, bind_of_ok (let_go_of_bound bound)]
  refine ends_bind (ends_mono (close_connection_ends closes) (fun _ u closed => ?_) fun _ u closed => closed)
  exact notes .session .debug "Released connection" u closed

theorem release_after_failure_ends (bound : s.binding w = some c)
    (closes : c.close.Ends (s.dropped w) (fun _ => R) (fun _ => R))
    (notes : ∀ channel severity text u, R u → R { u with history := .log channel severity text :: u.history }) :
    (s.releaseAfterFailure c).Ends w (fun _ => R) (fun _ => R) := by
  unfold Ends
  rw [Session.releaseAfterFailure, bind_of_ok (let_go_of_bound bound)]
  refine ends_on_ordinary (ends_mono closes (fun _ u closed => closed) fun f u closed => ?_)
  by_cases ordinary : f.isOrdinary
  · rw [if_pos ordinary]
    exact notes .resources .warning _ u closed
  · rw [if_neg ordinary]
    exact closed

end

theorem releases_of_closes {s : Session} {c : Connection} {w w' : World} (closes : Closes c (s.dropped w) w') :
    Releases s c w w' :=
  ⟨fun i => (closes.sessions i).trans (binding_put s none w i),
    ⟨fun _ => rfl, closes.opened, closes.handles, closes.standing, closes.proxies, closes.grew, closes.ended⟩⟩

def Session.finish (s : Session) (c : Connection) :
    EStateM.Result Failure World α → EStateM.Result Failure World α
  | .ok v w => (s.release c >>= fun _ => pure v) w
  | .error f w => (s.releaseAfterFailure c >>= fun _ => throw f) w

theorem finish_of_other {s : Session} {c : Connection} {r : EStateM.Result Failure World α}
    (other : s.binding (worldOf r) ≠ some c) : s.finish c r = r := by
  cases r with
  | ok v w =>
      have apart : s.binding w ≠ some c := other
      have run : s.release c w = .ok () w := by
        rw [Session.release, bind_of_ok (let_go_of_other apart)]
        rfl
      exact bind_of_ok run
  | error f w =>
      have apart : s.binding w ≠ some c := other
      have run : s.releaseAfterFailure c w = .ok () w := by
        rw [Session.releaseAfterFailure, bind_of_ok (let_go_of_other apart)]
        rfl
      exact bind_of_ok run

theorem finish_reaches {s : Session} {c : Connection} {r : EStateM.Result Failure World α} {R : World → Prop}
    (bound : s.binding (worldOf r) = some c)
    (closes : c.close.Ends (s.dropped (worldOf r)) (fun _ => R) (fun _ => R))
    (notes : ∀ channel severity text u, R u → R { u with history := .log channel severity text :: u.history }) :
    R (worldOf (s.finish c r)) := by
  cases r with
  | ok v w =>
      have ends := release_ends bound closes notes
      refine ends_after (a := s.release c >>= fun _ => pure v) (ends_bind ?_)
      exact ends_mono ends (fun _ _ closed => closed) fun _ _ closed => closed
  | error f w =>
      have ends := release_after_failure_ends bound closes notes
      refine ends_after (a := s.releaseAfterFailure c >>= fun _ => throw f) (ends_bind ?_)
      exact ends_mono ends (fun _ _ closed => closed) fun _ _ closed => closed

theorem finish_of_bound {s : Session} {c : Connection} {r : EStateM.Result Failure World α}
    (bound : s.binding (worldOf r) = some c) : Releases s c (worldOf r) (worldOf (s.finish c r)) :=
  releases_of_closes (finish_reaches bound (close_ends c _) fun channel severity text _ closes =>
    closes_log closes channel severity text)

theorem finish_ok {s : Session} {c : Connection} {r : EStateM.Result Failure World α} {v : α} {w : World}
    (run : s.finish c r = .ok v w) : ∃ w₁, r = .ok v w₁ := by
  cases r with
  | ok u w₁ =>
      obtain ⟨_, w₂, _, same⟩ := ok_of_bind run
      cases same
      exact ⟨w₁, rfl⟩
  | error f w₁ =>
      obtain ⟨_, w₂, _, thrown⟩ := ok_of_bind run
      cases thrown

def Session.entry (s : Session) : Action Connection := do
  match ← s.active? with
  | some c => pure c
  | none => s.acquire

theorem holding_of_acquired {s : Session} {w w₁ w₂ : World} {c : Connection}
    (probed : s.active? w = .ok none w₁) (acquired : s.acquire w₁ = .ok c w₂)
    (body : Connection → Action α) : s.holding body w = s.finish c (body c w₂) := by
  refine (bind_of_ok probed).trans ((bind_of_ok acquired).trans ?_)
  cases ran : body c w₂ with
  | ok v w₃ => exact bind_of_ok (outcome_of_ok ran)
  | error f w₃ => exact bind_of_ok (outcome_of_error ran)

theorem holding_cases (s : Session) (w : World) :
    (∃ f w', s.entry w = .error f w' ∧ Drops s w w' ∧ (∀ d, s.binding w = some d → ¬ d.ReadsOpen w) ∧
      ∀ {α : Type} (body : Connection → Action α), s.holding body w = .error f w') ∨
    (∃ c, s.entry w = .ok c w ∧ s.binding w = some c ∧ c.ReadsOpen w ∧
      ∀ {α : Type} (body : Connection → Action α), s.holding body w = body c w) ∨
    (∃ c w₁, s.entry w = .ok c w₁ ∧ Binds s c w w₁ ∧ (∀ d, s.binding w = some d → ¬ d.ReadsOpen w) ∧
      ∀ {α : Type} (body : Connection → Action α), s.holding body w = s.finish c (body c w₁)) := by
  by_cases opens : ∃ c, s.binding w = some c ∧ c.ReadsOpen w
  · obtain ⟨c, bound, opens⟩ := opens
    have probed := active_of_open bound opens
    exact Or.inr (Or.inl ⟨c, bind_of_ok probed, bound, opens, fun body => bind_of_ok probed⟩)
  · have shut : ∀ d, s.binding w = some d → ¬ d.ReadsOpen w := fun d bound opens' => opens ⟨d, bound, opens'⟩
    have probe := active_of_unbound_or_shut shut
    cases probed : s.active? w with
    | error f w₁ =>
        have same : w₁ = w := ends_error probe probed
        subst same
        refine Or.inl ⟨f, w₁, bind_of_error probed, drops_refl s w₁, shut, fun body => bind_of_error probed⟩
    | ok r w₁ =>
        obtain ⟨rfl, quiet, same⟩ := ends_ok probe probed
        cases acquired : s.acquire w₁ with
        | error f w₂ =>
            have drops := ends_error (acquire_ends s w₁) acquired
            refine Or.inl ⟨f, w₂, (bind_of_ok probed).trans acquired, ?_, shut, fun body => ?_⟩
            · exact drops_after_quiet quiet same drops
            · exact (bind_of_ok probed).trans (bind_of_error acquired)
        | ok c w₂ =>
            have binds := ends_ok (acquire_ends s w₁) acquired
            refine Or.inr (Or.inr ⟨c, w₂, (bind_of_ok probed).trans acquired, ?_, shut, fun body => ?_⟩)
            · exact binds_after_quiet quiet same binds
            · exact holding_of_acquired probed acquired body

theorem entered_cases {s : Session} {c : Connection} {w w' : World} (entered : s.entry w = .ok c w') :
    (w' = w ∧ s.binding w = some c ∧
      ∀ {α : Type} (body : Connection → Action α), s.holding body w = body c w) ∨
    (Binds s c w w' ∧ ∀ {α : Type} (body : Connection → Action α), s.holding body w = s.finish c (body c w')) := by
  rcases holding_cases s w with ⟨f, w₁, failed, _⟩ | ⟨d, found, bound, _, run⟩ | ⟨d, w₁, found, binds, _, run⟩
  · rw [failed] at entered
    cases entered
  · rw [found] at entered
    cases entered
    exact Or.inl ⟨rfl, bound, run⟩
  · rw [found] at entered
    cases entered
    exact Or.inr ⟨binds, run⟩

theorem session_close_reaches {s : Session} {c : Connection} {w : World} {R : World → Prop}
    (bound : s.binding w = some c) (closes : c.close.Ends (s.dropped w) (fun _ => R) (fun _ => R))
    (notes : ∀ channel severity text u, R u → R { u with history := .log channel severity text :: u.history }) :
    R (s.close.after w) := by
  have run : s.close w = (s.letGo c >>= fun _ => Session.closeConnection c >>= fun _ =>
      debug .session "Session closed") w := by
    have there : (w.sessions.get s.index).binding = some c := bound
    rw [Session.close, bind_of_ok (session_state_ok s w), there]
  apply ends_after
  unfold Ends
  rw [run, bind_of_ok (let_go_of_bound bound)]
  refine ends_bind (ends_mono (close_connection_ends closes) (fun _ u closed => ?_) fun _ u closed => closed)
  exact notes .session .debug "Session closed" u closed

theorem session_close_of_bound {s : Session} {c : Connection} {w : World} (bound : s.binding w = some c) :
    Releases s c w (s.close.after w) :=
  releases_of_closes (session_close_reaches bound (close_ends c _) fun channel severity text _ closes =>
    closes_log closes channel severity text)

theorem session_close_of_unbound {s : Session} {w : World} (unbound : s.binding w = none) :
    s.close w = .ok () w := by
  unfold Session.binding at unbound
  rw [Session.close, bind_of_ok (session_state_ok s w), unbound]
  rfl

end SqlScope
