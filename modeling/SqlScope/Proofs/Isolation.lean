import SqlScope.Proofs.Scope

set_option autoImplicit false

namespace SqlScope

open SqlScope.Action

variable {α : Type} {s : Session} {c : Connection} {w w' : World}

def Session.enterScope (s : Session) (savepoint : Value) : Action Connection := do
  if (← s.state).inTransaction then throw Session.nested
  else
    let c ← s.entry
    let _ ← s.begins savepoint c
    pure c

theorem enter_scope_in_scope (inside : s.inScope w = true) (savepoint : Value) :
    s.enterScope savepoint w = .error Session.nested w := by
  change (if s.inScope w then throw Session.nested else _ : Action Connection) w = _
  rw [if_pos inside]
  rfl

theorem enter_scope_outside (outside : s.inScope w = false) (savepoint : Value) :
    s.enterScope savepoint w = (s.entry >>= fun c => s.begins savepoint c >>= fun _ => pure c) w := by
  change (if s.inScope w then throw Session.nested
    else s.entry >>= fun c => s.begins savepoint c >>= fun _ => pure c : Action Connection) w = _
  rw [if_neg (by rw [outside]; decide)]

theorem enter_scope_cases {savepoint : Value} (entered : s.enterScope savepoint w = .ok c w') :
    s.inScope w = false ∧ ∃ name w₁, s.entry w = .ok c w₁ ∧ s.begins savepoint c w₁ = .ok name w' := by
  cases inside : s.inScope w with
  | true =>
      rw [enter_scope_in_scope inside] at entered
      cases entered
  | false =>
      rw [enter_scope_outside inside] at entered
      obtain ⟨d, w₁, held, entered⟩ := ok_of_bind entered
      obtain ⟨name, w₂, begun, same⟩ := ok_of_bind entered
      cases same
      exact ⟨rfl, name, w₁, held, begun⟩

theorem entry_binding (entered : s.entry w = .ok c w') : s.binding w' = some c := by
  rcases entered_cases entered with ⟨rfl, bound, _⟩ | ⟨binds, _⟩
  · exact bound
  · exact rebinds_binding binds

theorem holding_of_entered (entered : s.entry w = .ok c w') :
    ∃ leave : EStateM.Result Failure World α → EStateM.Result Failure World α,
      (leave = id ∨ leave = s.finish c) ∧ ∀ body : Connection → Action α, s.holding body w = leave (body c w') := by
  rcases entered_cases entered with ⟨rfl, _, run⟩ | ⟨_, run⟩
  · exact ⟨id, Or.inl rfl, fun body => run body⟩
  · exact ⟨s.finish c, Or.inr rfl, fun body => run body⟩

def Session.settled (s : Session) (c : Connection) (name : Option String) :
    EStateM.Result Failure World α → EStateM.Result Failure World α
  | .ok v w => s.concludes c name (.ok v) w
  | .error f w => s.concludes c name (.error f) w

theorem transact_of_entered {savepoint : Value} (entered : s.enterScope savepoint w = .ok c w') :
    ∃ leave : EStateM.Result Failure World α → EStateM.Result Failure World α,
      ∀ op : Connection → Action α, s.transact op savepoint w = leave (op c w') := by
  obtain ⟨outside, name, w₁, held, begun⟩ := enter_scope_cases entered
  obtain ⟨leave, _, run⟩ := holding_of_entered (α := α) held
  refine ⟨fun r => leave (s.settled c name r), fun op => ?_⟩
  rw [transact_outside outside, run, scope_of_begun begun]
  cases ran : op c w' with
  | ok v u =>
      rw [bind_of_ok (outcome_of_ok ran)]
      rfl
  | error f u =>
      rw [bind_of_ok (outcome_of_error ran)]
      rfl

structure Session.Within (s : Session) (c : Connection) (w : World) : Prop where
  inside : s.inScope w = true
  bound : s.binding w = some c

theorem within_of_entered {savepoint : Value} (entered : s.enterScope savepoint w = .ok c w') : s.Within c w' := by
  obtain ⟨_, name, w₁, held, begun⟩ := enter_scope_cases entered
  rw [Session.begins, bind_of_ok (set_scope_ok s true w₁), ← after_of_ok (set_scope_ok s true w₁)] at begun
  have acts := (begins_acts c savepoint ((s.setScope true).after w₁) trivial).2
  rw [after_of_ok begun] at acts
  have inside := set_scope_in_scope s true w₁
  have bound := (set_scope_binding s true w₁).trans (entry_binding held)
  exact ⟨(congrArg SessionState.inTransaction (acts.sessions s.index)).trans inside,
    (congrArg SessionState.binding (acts.sessions s.index)).trans bound⟩

theorem commit_write_in_scope (inside : s.inScope w = true) : s.commitWrite c w = .ok () w := by
  change (if s.inScope w then pure () else _ : Action Unit) w = _
  rw [if_pos inside]
  rfl

theorem undo_write_in_scope (inside : s.inScope w = true) : s.undoWrite c w = .ok () w := by
  change (if s.inScope w then pure () else _ : Action Unit) w = _
  rw [if_pos inside]
  rfl

theorem written_after_in_scope {body : Connection → Action α} (inside : s.inScope ((body c).after w) = true) :
    (s.written body c).after w = (body c).after w := by
  cases ran : body c w with
  | ok v w₁ =>
      rw [after_of_ok ran] at inside ⊢
      exact (after_bind_of_ok (outcome_of_ok ran)).trans (after_bind_of_ok (commit_write_in_scope inside))
  | error f w₁ =>
      rw [after_of_error ran] at inside ⊢
      exact (after_bind_of_ok (outcome_of_error ran)).trans (after_bind_of_ok (undo_write_in_scope inside))

section

variable {P : Call → Prop} {T : String → Prop}

-- Inside the scope its connection stays bound and open, and only work on it is done.
def isolating (s : Session) (c : Connection) (P : Call → Prop) (T : String → Prop) : Law where
  inv w := s.Within c w ∧ c.ReadsOpen w
  rel w w' := Grew (fun call => P call ∨ call.Work c.raw T) w w' ∧ w'.opened = w.opened
  refl _ := ⟨grew_same rfl, rfl⟩
  trans _ _ _ first second := ⟨grew_trans first.1 second.1, second.2.trans first.2⟩

theorem within_of_record (within : s.Within c w) (same : w'.sessions.get s.index = w.sessions.get s.index) :
    s.Within c w' where
  inside := (congrArg SessionState.inTransaction same).trans within.inside
  bound := (congrArg SessionState.binding same).trans within.bound

structure Stays (s : Session) (c : Connection) (P : Call → Prop) (w w' : World) : Prop where
  record : w'.sessions.get s.index = w.sessions.get s.index
  opened : w'.opened = w.opened
  grew : Grew P w w'
  opens : c.ReadsOpen w'

theorem stays_of_acts (opens : c.ReadsOpen w) (acts : Acts P w w') : Stays s c P w w' where
  record := acts.sessions s.index
  opened := acts.opened
  grew := acts.grew
  opens := reads_open_of_alike ⟨acts.standing, acts.proxies⟩ opens

theorem stays_isolating {Q : Call → Prop} (implies : ∀ call, Q call → P call ∨ call.Work c.raw T) {a : Action α}
    (stays : ∀ w, c.ReadsOpen w → Stays s c Q w (a.after w)) : (isolating s c P T).Kept a := by
  rintro w ⟨within, opens⟩
  have stay := stays w opens
  exact ⟨⟨within_of_record within stay.record, stay.opens⟩, grew_mono implies stay.grew, stay.opened⟩

theorem holding_isolating {body : Connection → Action α} (kept : (isolating s c P T).Kept (body c)) :
    (isolating s c P T).Kept (s.holding body) := by
  intro w holds
  have run : s.holding body w = body c w := bind_of_ok (active_of_open holds.1.bound holds.2)
  rw [Action.after, run]
  exact kept w holds

def Manner.within (s : Session) (c : Connection) (P : Call → Prop) (T : String → Prop) : Manner where
  own a := ∀ w, c.ReadsOpen w → Stays s c P w (a.after w)
  text := T
  closes := False

theorem isolating_governs : Governs (isolating s c P T) (.within s c P T) s (· = c.raw) where
  own a own := stays_isolating (fun _ => Or.inl) own
  works a held lent works := by
    refine stays_isolating (fun call meets => ?_) fun w opens => stays_of_acts opens (works w trivial).2
    obtain ⟨d, here, work⟩ := meets
    rw [lent d here] at work
    exact Or.inr work
  holding body kept := holding_isolating (kept c rfl)
  transact op savepoint _ w holds := by
    rw [after_of_error (transact_in_scope holds.1.inside op savepoint)]
    exact ⟨holds, grew_same rfl, rfl⟩
  write body kept := by
    apply holding_isolating
    intro w holds
    have kept' := kept c rfl w holds
    change (isolating s c P T).inv ((s.written body c).after w) ∧ (isolating s c P T).rel w ((s.written body c).after w)
    rw [written_after_in_scope kept'.1.1.inside]
    exact kept'
  close absurd := absurd.elim

-- The worlds in which a run makes a call of `with_transaction`, at any depth.
def Routine.scopesAt (s : Session) {α : Type} : Routine α → World → World → Prop
  | act _ _, _, _ => False
  | next x k, w, u => x.scopesAt s w u ∨ ∃ v w₁, x.run s w = .ok v w₁ ∧ (k v).scopesAt s w₁ u
  | caught x, w, u => x.scopesAt s w u
  | holding op, w, u => ∃ c w₁, s.entry w = .ok c w₁ ∧ (op c).scopesAt s w₁ u
  | transact op savepoint, w, u => u = w ∨ ∃ c w₁, s.enterScope savepoint w = .ok c w₁ ∧ (op c).scopesAt s w₁ u
  | write body, w, u => ∃ c w₁, s.entry w = .ok c w₁ ∧ (body c).scopesAt s w₁ u
  | close, _, _ => False

theorem entry_of_open {d : Connection} (within : s.Within c w) (opens : c.ReadsOpen w)
    (entered : s.entry w = .ok d w') : d = c ∧ w' = w := by
  have run : s.entry w = .ok c w := bind_of_ok (active_of_open within.bound opens)
  rw [run] at entered
  cases entered
  exact ⟨rfl, rfl⟩

theorem scopes_inside {x : Routine α} {held : Option RawConnection} (lent : ∀ k, held = some k → k = c.raw)
    (keeps : x.Keeps (.within s c P T) s held) (holds : (isolating s c P T).inv w) {u : World}
    (asks : x.scopesAt s w u) : s.inScope u = true := by
  induction x generalizing held w with
  | act party a => exact asks.elim
  | next x k ihx ihk =>
      rcases asks with first | ⟨v, w₁, ran, rest⟩
      · exact ihx lent keeps.1 holds first
      · have holds₁ := (run_kept isolating_governs lent keeps.1 w holds).1
        rw [after_of_ok ran] at holds₁
        exact ihk v lent (keeps.2 w v w₁ ran) holds₁ rest
  | caught x ih => exact ih lent keeps holds asks
  | holding op ih =>
      obtain ⟨d, w₁, entered, inner⟩ := asks
      obtain ⟨rfl, rfl⟩ := entry_of_open holds.1 holds.2 entered
      exact ih d (fun k same => (Option.some.inj same).symm) (keeps d) holds inner
  | transact op savepoint ih =>
      rcases asks with rfl | ⟨d, w₁, entered, inner⟩
      · exact holds.1.inside
      · rw [enter_scope_in_scope holds.1.inside] at entered
        cases entered
  | write body ih =>
      obtain ⟨d, w₁, entered, inner⟩ := asks
      obtain ⟨rfl, rfl⟩ := entry_of_open holds.1 holds.2 entered
      exact ih d (fun k same => (Option.some.inj same).symm) (keeps d) holds inner
  | close => exact asks.elim

end

def Call.Quiet (call : Call) : Prop :=
  call.opens = false ∧ call.closes = false ∧ (∀ d, call ≠ .commit d) ∧ ∀ d, call ≠ .rollback d

theorem work_quiet {k : RawConnection} {T : String → Prop} {call : Call} (work : call.Work k T) : call.Quiet := by
  cases call <;> simp_all [Call.Work, Call.Quiet, Call.opens, Call.closes]

-- `P` is what the operation does to connections by itself, and `T` holds of the texts of its calls.
theorem scope_isolated (s : Session) (savepoint : Value) {w w₁ : World} {c : Connection}
    (entered : s.enterScope savepoint w = .ok c w₁) (opens : c.ReadsOpen w₁) {P : Call → Prop}
    {T : String → Prop} (quiet : ∀ call, P call → call.Quiet) (op : Connection → Routine α)
    (keeps : (op c).Keeps (.within s c P T) s (some c.raw)) :
    let w₂ := ((op c).run s).after w₁
    (∃ leave : EStateM.Result Failure World α → EStateM.Result Failure World α,
      ∀ f : Connection → Action α, s.transact f savepoint w = leave (f c w₁)) ∧
    (∃ added, w₂.history = added ++ w₁.history ∧ ∀ made fault, .call made fault ∈ added →
      made.Quiet ∧ (P made ∨ made.Work c.raw T)) ∧
    w₂.opened = w₁.opened ∧
    (∀ u, (op c).scopesAt s w₁ u → ∀ {β : Type} (f : Connection → Action β) (v : Value),
      s.transact f v u = .error Session.nested u) := by
  intro w₂
  have holds : (isolating s c P T).inv w₁ := ⟨within_of_entered entered, opens⟩
  have lent : ∀ k, some c.raw = some k → k = c.raw := fun k same => (Option.some.inj same).symm
  obtain ⟨grew, opened⟩ := (run_kept isolating_governs lent keeps w₁ holds).2
  refine ⟨transact_of_entered entered, ?_, opened, fun u asks β f v => ?_⟩
  · obtain ⟨added, grown, meets⟩ := grew
    refine ⟨added, grown, fun made fault member => ?_⟩
    have allowed : P made ∨ made.Work c.raw T := meets _ member
    rcases allowed with own | work
    · exact ⟨quiet made own, Or.inl own⟩
    · exact ⟨work_quiet work, Or.inr work⟩
  · exact transact_in_scope (scopes_inside lent keeps holds asks) f v

-- An update and a nested scope, whose failure is caught.
theorem scope_isolated_from_nested_scope :
    let s : Session := ⟨0, .plain⟩
    let sql := "UPDATE t SET a = 1"
    let op : Connection → Routine (Except Failure Unit) := fun _ =>
      .next (.update sql (fun _ => .done ()) fun _ => .done ()) fun _ => .caught (.transact (fun _ => .done ()) .null)
    ∃ c w₁, s.enterScope .null (World.start [] default 0) = .ok c w₁ ∧
      ((op c).run s |>.after w₁).opened = w₁.opened ∧
      ∃ added, ((op c).run s |>.after w₁).history = added ++ w₁.history ∧
        ∀ made fault, .call made fault ∈ added → made.Quiet ∧ (False ∨ made.Work c.raw (· = sql)) := by
  intro s sql op
  let w₁ := (s.enterScope .null).after (World.start [] default 0)
  have entered : s.enterScope .null (World.start [] default 0) = .ok (.direct ⟨0⟩) w₁ := rfl
  have opens : (Connection.direct ⟨0⟩).ReadsOpen w₁ := ⟨.bool false, rfl, rfl⟩
  have keeps : (op (.direct ⟨0⟩)).Keeps (.within s (.direct ⟨0⟩) (fun _ => False) (· = sql)) s (some ⟨0⟩) :=
    Routine.keeps_next (Routine.keeps_update rfl (fun _ _ => Routine.keeps_done ()) fun _ => Routine.keeps_done ())
      fun _ _ => Routine.keeps_done ()
  have quiet : ∀ call : Call, False → call.Quiet := fun _ absurd => absurd.elim
  obtain ⟨_, added, opened, _⟩ := scope_isolated s .null entered opens quiet op keeps
  exact ⟨.direct ⟨0⟩, w₁, entered, opened, added⟩

end SqlScope
