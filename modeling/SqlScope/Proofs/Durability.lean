import SqlScope.Proofs.Success

set_option autoImplicit false

namespace SqlScope

open SqlScope.Action

variable {α : Type} {s : Session} {c d : Connection} {u v w w' w₁ : World} {P : Call → Prop}

-- In its run from the first world, the routine acknowledges a write on `c` whose body ended in the last
-- one: the write and every session call around it return normally. If there is a transaction scope around
-- it, `scope?` is the connection of that scope and the world in which its operation ended.
def Routine.acks (s : Session) {α : Type} :
    Routine α → World → Option (Connection × World) → Connection → World → Prop
  | act _ _, _, _, _, _ => False
  | next x k, w, scope?, c, v =>
    x.acks s w scope? c v ∨ ∃ a w₁, x.run s w = .ok a w₁ ∧ (k a).acks s w₁ scope? c v
  | caught x, w, scope?, c, v => x.acks s w scope? c v
  | holding op, w, scope?, c, v =>
    (∃ a w', s.holding (fun d => (op d).run s) w = .ok a w') ∧
      ∃ d w₁, s.entry w = .ok d w₁ ∧ (op d).acks s w₁ scope? c v
  | transact op savepoint, w, scope?, c, v =>
    (∃ a w', s.transact (fun d => (op d).run s) savepoint w = .ok a w') ∧
      ∃ d w₁, s.enterScope savepoint w = .ok d w₁ ∧ (op d).acks s w₁ none c v ∧
        scope? = some (d, ((op d).run s).after w₁)
  | write body, w, scope?, c, v =>
    (∃ a w', s.write (fun d => (body d).run s) w = .ok a w') ∧
      ∃ d w₁, s.entry w = .ok d w₁ ∧
        ((scope? = none ∧ c = d ∧ ∃ a, (body d).run s w₁ = .ok a v) ∨ (body d).acks s w₁ scope? c v)
  | close, _, _, _, _ => False

abbrev Later (w w' : World) : Prop := Grew (fun _ => True) w w'

theorem grew_of_later (grew : Grew P w u) (early : Later w v) (late : Later v u) :
    Grew P v u := by
  obtain ⟨whole, grown, meets⟩ := grew
  obtain ⟨first, there, _⟩ := early
  obtain ⟨second, here, _⟩ := late
  refine ⟨second, here, fun e member => meets e ?_⟩
  have same : whole = second ++ first := by
    rw [here, there, ← List.append_assoc] at grown
    exact (List.append_cancel_right grown).symm
  rw [same]
  exact List.mem_append_left first member

theorem run_onward {x : Routine α} {held : Option RawConnection} (keeps : x.Keeps (.modest s P) s held)
    (placed : s.Placed w) :
    s.Placed ((x.run s).after w) ∧ Later w ((x.run s).after w) ∧ w.opened ≤ ((x.run s).after w).opened :=
  run_kept (onward_governs s P) (fun _ _ => trivial) keeps w placed

theorem rest_kept {l : Law} {m : Manner} {fits : RawConnection → Prop} (governs : Governs l m s fits) {β : Type}
    {x : Routine β} {k : β → Routine α} {held : Option RawConnection} (lent : ∀ j, held = some j → fits j)
    (keeps : (Routine.next x k).Keeps m s held) (holds : l.inv ((x.run s).after w)) :
    l.rel ((x.run s).after w) (((Routine.next x k).run s).after w) := by
  cases ran : x.run s w with
  | ok a w₁ =>
      rw [after_of_ok ran] at holds ⊢
      rw [Routine.run, after_bind_of_ok ran]
      exact (run_kept governs lent (keeps.2 w a w₁ ran) w₁ holds).2
  | error f w₁ =>
      rw [after_of_error ran]
      rw [Routine.run, after_of_error (bind_of_error ran)]
      exact l.refl w₁

structure Amid (s : Session) (c : Connection) (w v w' : World) : Prop where
  before : Later w v
  after : Later v w'
  place : s.binding w = some c ∨ w.opened ≤ c.raw.index
  opened : c.raw.index < w'.opened

theorem amid_held (placed : s.Placed w) (entered : s.entry w = .ok d w₁) (inner : Amid s c w₁ v u)
    (placed' : s.Placed u) (leaves : Leaves s d u w') : Amid s c w v w' := by
  obtain ⟨_, grew, opened, _, found⟩ := entry_onward placed entered
  obtain ⟨_, grew', opened'⟩ := leaves_onward placed' leaves
  refine ⟨grew_trans grew inner.before, grew_trans inner.after grew', ?_, Nat.lt_of_lt_of_le inner.opened opened'⟩
  rcases inner.place with bound | new
  · have same : d = c := Option.some.inj ((entry_binding entered).symm.trans bound)
    exact same ▸ found
  · exact Or.inr (Nat.le_trans opened new)

theorem acks_inside {x : Routine α} {held : Option RawConnection} (keeps : x.Keeps (.modest s P) s held)
    (inside : s.inScope w = true) (placed : s.Placed w) {scope? : Option (Connection × World)}
    (acked : x.acks s w scope? c v) : scope? = none ∧ Amid s c w v ((x.run s).after w) := by
  induction x generalizing held w with
  | act party a => exact acked.elim
  | next x k ihx ihk =>
      have onward := run_onward keeps.1 placed
      rcases acked with first | ⟨a, w₁, ran, rest⟩
      · obtain ⟨none, amid⟩ := ihx keeps.1 inside placed first
        obtain ⟨grew, opened⟩ := rest_kept (onward_governs s P) (fun _ _ => trivial) keeps onward.1
        exact ⟨none, amid.before, grew_trans amid.after grew, amid.place, Nat.lt_of_lt_of_le amid.opened opened⟩
      · have settles := run_settles (modest_apart s P) keeps.1 w
        rw [after_of_ok ran] at onward settles
        obtain ⟨none, amid⟩ := ihk a (keeps.2 w a w₁ ran) (settles.scope.trans inside) onward.1 rest
        rw [Routine.run, after_bind_of_ok ran]
        refine ⟨none, grew_trans onward.2.1 amid.before, amid.after, ?_, amid.opened⟩
        rcases amid.place with bound | new
        · exact Or.inl (bound_before settles.binding bound)
        · exact Or.inr (Nat.le_trans onward.2.2 new)
  | caught x ih =>
      rw [Routine.run, after_outcome]
      exact ih keeps inside placed acked
  | holding op ih =>
      obtain ⟨_, d, w₁, entered, inner⟩ := acked
      obtain ⟨placed₁, _, _, scope₁, _⟩ := entry_onward placed entered
      obtain ⟨none, amid⟩ := ih d (keeps d) (scope₁.trans inside) placed₁ inner
      exact ⟨none, amid_held placed entered amid (run_onward (keeps d) placed₁).1 (holding_leaves entered _)⟩
  | transact op savepoint ih =>
      obtain ⟨_, d, w₁, entered, _⟩ := acked
      rw [enter_scope_in_scope inside] at entered
      cases entered
  | write body ih =>
      obtain ⟨_, d, w₁, entered, inner⟩ := acked
      obtain ⟨placed₁, _, _, scope₁, _⟩ := entry_onward placed entered
      have onward := run_onward (keeps d) placed₁
      have still := (run_settles (modest_apart s P) (keeps d) w₁).scope.trans (scope₁.trans inside)
      have leaves := holding_leaves entered (s.written fun d => (body d).run s)
      rw [written_after_in_scope still] at leaves
      rcases inner with ⟨none, rfl, a, ran⟩ | inner
      · rw [after_of_ok ran] at onward leaves
        have bound := entry_binding entered
        have amid : Amid s c w₁ v v := ⟨onward.2.1, grew_same rfl, Or.inl bound,
          Nat.lt_of_lt_of_le (placed₁ c bound) onward.2.2⟩
        exact ⟨none, amid_held placed entered amid onward.1 leaves⟩
      · obtain ⟨none, amid⟩ := ih d (keeps d) (scope₁.trans inside) placed₁ inner
        exact ⟨none, amid_held placed entered amid onward.1 leaves⟩
  | close => exact acked.elim

-- What becomes of a write on `c` outside of all scopes at the start: without a scope around it, it is
-- committed at once; with one, the connection of the scope is, and no other unless the client does it.
structure Fate (P : Call → Prop) (w w' : World) (c : Connection) (v : World) (scope? : Option (Connection × World)) :
    Prop where
  opened : c.raw.index < w'.opened
  alone : scope? = none → ∃ u, u.history = .call (.commit c.raw) none :: v.history ∧ Later u w'
  inner : ∀ d u, scope? = some (d, u) → Grew (fun call => call.settles = false ∨ P call) v u ∧
    (∃ u', u'.history = .call (.commit d.raw) none :: u.history ∧ Later u' w') ∧
    ((∀ call, P call → call ≠ .commit c.raw) → d = c ∨ w.opened ≤ c.raw.index ∧ Grew (· ≠ .commit c.raw) v w')

theorem fate_extended {scope? : Option (Connection × World)} (fate : Fate P w u c v scope?) (grew : Later u w')
    (opened : u.opened ≤ w'.opened)
    (spared : (∀ call, P call → call ≠ .commit c.raw) → w.opened ≤ c.raw.index → Grew (· ≠ .commit c.raw) u w') :
    Fate P w w' c v scope? where
  opened := Nat.lt_of_lt_of_le fate.opened opened
  alone none := by
    obtain ⟨u', committed, grew'⟩ := fate.alone none
    exact ⟨u', committed, grew_trans grew' grew⟩
  inner d e scope := by
    obtain ⟨quiet, ⟨u', committed, grew'⟩, lost⟩ := fate.inner d e scope
    refine ⟨quiet, ⟨u', committed, grew_trans grew' grew⟩, fun spares => ?_⟩
    rcases lost spares with same | ⟨new, spared'⟩
    · exact Or.inl same
    · exact Or.inr ⟨new, grew_trans spared' (spared spares new)⟩

theorem fate_of_later {scope? : Option (Connection × World)} (opened : w.opened ≤ u.opened)
    (fate : Fate P u w' c v scope?) : Fate P w w' c v scope? where
  opened := fate.opened
  alone := fate.alone
  inner d e scope := by
    obtain ⟨quiet, committed, lost⟩ := fate.inner d e scope
    refine ⟨quiet, committed, fun spares => ?_⟩
    rcases lost spares with same | ⟨new, spared⟩
    · exact Or.inl same
    · exact Or.inr ⟨Nat.le_trans opened new, spared⟩

theorem fate_held {scope? : Option (Connection × World)} (placed : s.Placed w) (entered : s.entry w = .ok d w₁)
    (fate : Fate P w₁ u c v scope?) (placed' : s.Placed u) (leaves : Leaves s d u w') : Fate P w w' c v scope? := by
  obtain ⟨_, _, opened, _, _⟩ := entry_onward placed entered
  obtain ⟨_, grew, opened'⟩ := leaves_onward placed' leaves
  refine fate_of_later opened (fate_extended fate grew opened' fun _ _ => ?_)
  exact grew_mono (fun _ => not_commit_of_unsettling) (leaves_unsettling leaves)

theorem on_spares {k : RawConnection} (other : d.raw ≠ k) (call : Call) (on : Call.On d.raw call) :
    call ≠ .commit k := by
  rintro rfl
  exact other (Option.some.inj on.1).symm

theorem raw_ne_of_index {k : RawConnection} (low : d.raw.index < w.opened) (high : w.opened ≤ k.index) :
    d.raw ≠ k := by
  rintro rfl
  omega

theorem fate_of_write {body : Connection → Action α} {a : α} (outside : s.inScope v = false)
    (ran : body c w₁ = .ok a v) {b : α} (wrote : s.written body c w₁ = .ok b u) :
    u.history = .call (.commit c.raw) none :: v.history := by
  obtain ⟨u', ran', committed⟩ := written_ok wrote
  rw [ran] at ran'
  cases ran'
  exact commit_write_ok outside committed

theorem fate_of_commit {scope? : Option (Connection × World)} (fate : Fate P w w₁ c v scope?)
    (bound : d.raw.index < w.opened) (committed : s.commitWrite d w₁ = .ok () u) : Fate P w u c v scope? := by
  have acts := (commit_write_acts s d w₁ trivial).2
  rw [after_of_ok committed] at acts
  refine fate_extended fate (grew_mono (fun _ _ => trivial) acts.grew) (Nat.le_of_eq acts.opened.symm) fun _ new => ?_
  exact grew_mono (on_spares (raw_ne_of_index bound new)) acts.grew

theorem fate_of_scope {op : Connection → Routine α} {savepoint : Value} {a : α} (placed : s.Placed w)
    (keeps : (op d).Keeps (.modest s P) s (some d.raw)) (entered : s.enterScope savepoint w = .ok d w₁)
    (ran : s.transact (fun d => (op d).run s) savepoint w = .ok a w') (acked : (op d).acks s w₁ none c v) :
    Fate P w w' c v (some (d, ((op d).run s).after w₁)) := by
  have within := within_of_entered entered
  obtain ⟨outside, name, w₀, held, begun⟩ := enter_scope_cases entered
  obtain ⟨placed₀, _, opened₀, _, _⟩ := entry_onward placed held
  have begins : (onward s).Kept (s.begins savepoint d) :=
    kept_bind (set_scope_onward true) fun _ => acts_onward (begins_acts d savepoint)
  obtain ⟨placed₁, _, opened₁⟩ := begins w₀ placed₀
  rw [after_of_ok begun] at placed₁ opened₁
  have whole : s.holding (s.scope (fun d => (op d).run s) savepoint) w = .ok a w' :=
    (transact_outside outside _ savepoint).symm.trans ran
  obtain ⟨u₂, settled⟩ := holding_ok held whole
  obtain ⟨u, u', operated, committed, grew, concluded, opened₂⟩ := scope_ok begun settled
  obtain ⟨_, amid⟩ := acks_inside keeps within.inside placed₁ acked
  have still := (run_kept (unsettling_governs s P) (fun _ _ => trivial) keeps w₁ within.inside).2
  have leaves := holding_leaves held (s.scope (fun d => (op d).run s) savepoint)
  have scope : (onward s).Kept (s.scope (fun d => (op d).run s) savepoint d) :=
    scope_kept set_scope_onward (fun _ => acts_onward) (run_kept (onward_governs s P) (fun _ _ => trivial) keeps) savepoint
  obtain ⟨placed₂, _, _⟩ := scope w₀ placed₀
  rw [after_of_ok settled] at leaves placed₂
  rw [after_of_ok whole] at leaves
  rw [after_of_ok operated] at amid still ⊢
  obtain ⟨_, grew₃, opened₃⟩ := leaves_onward placed₂ leaves
  have quiet := grew_of_later still amid.before amid.after
  refine ⟨Nat.lt_of_lt_of_le amid.opened (by omega), (fun absurd => by cases absurd), ?_⟩
  rintro _ _ ⟨rfl, rfl⟩
  refine ⟨quiet, ⟨u', committed, grew_trans grew grew₃⟩, fun spares => ?_⟩
  rcases amid.place with bound | new
  · exact Or.inl (Option.some.inj (within.bound.symm.trans bound))
  · right
    have other := raw_ne_of_index (placed₁ d within.bound) new
    refine ⟨by omega, grew_trans (grew_mono (fun call quiet => quiet.elim not_commit_of_unsettling (spares call)) quiet) ?_⟩
    exact grew_trans (grew_mono (on_spares other) concluded)
      (grew_mono (fun _ => not_commit_of_unsettling) (leaves_unsettling leaves))

theorem lent_of_entered (placed : s.Placed w) (entered : s.entry w = .ok d w₁) :
    ∀ k, some d.raw = some k → k.index < w₁.opened := by
  rintro _ ⟨rfl⟩
  exact (entry_onward placed entered).1 d (entry_binding entered)

theorem acks_outside {x : Routine α} {held : Option RawConnection} (keeps : x.Keeps (.modest s P) s held)
    (outside : s.inScope w = false) (placed : s.Placed w) (lent : ∀ k, held = some k → k.index < w.opened)
    {scope? : Option (Connection × World)} (acked : x.acks s w scope? c v) :
    Fate P w ((x.run s).after w) c v scope? := by
  induction x generalizing held w with
  | act party a => exact acked.elim
  | next x k ihx ihk =>
      have onward := run_onward keeps.1 placed
      have settles := run_settles (modest_apart s P) keeps.1 w
      rcases acked with first | ⟨a, w₁, ran, rest⟩
      · have fate := ihx keeps.1 outside placed lent first
        obtain ⟨grew, opened⟩ := rest_kept (onward_governs s P) (fun _ _ => trivial) keeps onward.1
        apply fate_extended fate grew opened
        intro spares new
        -- The connection is newer than all that is bound or held from here on.
        refine rest_kept (uncommitting_governs s spares) (fun k here => ?_) keeps ⟨fate.opened, fun e bound => ?_⟩
        · rintro rfl
          exact absurd (lent _ here) (by omega)
        · exact raw_ne_of_index (placed e (bound_before settles.binding bound)) new
      · rw [after_of_ok ran] at onward settles
        have lent₁ : ∀ j, held = some j → j.index < w₁.opened := fun j here =>
          Nat.lt_of_lt_of_le (lent j here) onward.2.2
        have fate := ihk a (keeps.2 w a w₁ ran) (settles.scope.trans outside) onward.1 lent₁ rest
        rw [Routine.run, after_bind_of_ok ran]
        exact fate_of_later onward.2.2 fate
  | caught x ih =>
      rw [Routine.run, after_outcome]
      exact ih keeps outside placed lent acked
  | holding op ih =>
      obtain ⟨_, d, w₁, entered, inner⟩ := acked
      obtain ⟨placed₁, _, _, scope₁, _⟩ := entry_onward placed entered
      have fate := ih d (keeps d) (scope₁.trans outside) placed₁ (lent_of_entered placed entered) inner
      exact fate_held placed entered fate (run_onward (keeps d) placed₁).1 (holding_leaves entered _)
  | transact op savepoint ih =>
      obtain ⟨⟨a, w', ran⟩, d, w₁, entered, inner, rfl⟩ := acked
      rw [Routine.run, after_of_ok ran]
      exact fate_of_scope placed (keeps d) entered ran inner
  | write body ih =>
      obtain ⟨⟨a, w', ran⟩, d, w₁, entered, inner⟩ := acked
      obtain ⟨placed₁, _, _, scope₁, _⟩ := entry_onward placed entered
      have bound := placed₁ d (entry_binding entered)
      have whole : s.holding (s.written fun d => (body d).run s) w = .ok a w' := ran
      obtain ⟨u, wrote⟩ := holding_ok entered whole
      have leaves := holding_leaves entered (s.written fun d => (body d).run s)
      have written : (onward s).Kept (s.written (fun d => (body d).run s) d) :=
        written_kept (fun _ => acts_onward) (run_kept (onward_governs s P) (fun _ _ => trivial) (keeps d))
      obtain ⟨placed₂, _, opened₂⟩ := written w₁ placed₁
      rw [after_of_ok wrote] at leaves placed₂ opened₂
      refine fate_held placed entered ?_ placed₂ leaves
      rcases inner with ⟨rfl, rfl, b, ended⟩ | inner
      · have settles := run_settles (modest_apart s P) (keeps c) w₁
        rw [after_of_ok ended] at settles
        have committed := fate_of_write (settles.scope.trans (scope₁.trans outside)) ended wrote
        exact ⟨by omega, fun _ => ⟨u, committed, grew_same rfl⟩, fun _ _ absurd => by cases absurd⟩
      · have fate := ih d (keeps d) (scope₁.trans outside) placed₁ (lent_of_entered placed entered) inner
        obtain ⟨u', ended, committed⟩ := written_ok wrote
        rw [after_of_ok ended] at fate
        exact fate_of_commit fate bound committed
  | close => exact acked.elim

def Call.shuts (k : RawConnection) (call : Call) : Prop := call.closes = true ∧ call.raw? = some k

-- After what was done up to `v` on a connection, a commit of it that succeeded, before which it was
-- neither rolled back nor closed.
def Durable (k : RawConnection) (v w : World) : Prop :=
  ∃ later before, w.history = later ++ .call (.commit k) none :: (before ++ v.history) ∧
    ∀ e ∈ before, e.Meets fun call => call ≠ .rollback k ∧ ¬ call.shuts k

theorem suffix_of_absent {e : Event} {later before later' before' : List Event}
    (same : later ++ e :: before = later' ++ e :: before') (absent : e ∉ before') :
    ∃ more, before = more ++ before' := by
  rcases List.append_eq_append_iff.mp same with ⟨middle, _, rest⟩ | ⟨middle, _, rest⟩
  · cases middle with
    | nil => exact ⟨[], (List.cons.inj rest).2⟩
    | cons f more =>
        obtain ⟨_, found⟩ := List.cons.inj rest
        exact ⟨more ++ [e], by rw [found, List.append_assoc]; rfl⟩
  · cases middle with
    | nil => exact ⟨[], ((List.cons.inj rest).2).symm⟩
    | cons f more =>
        obtain ⟨_, found⟩ := List.cons.inj rest
        exact absurd (found ▸ List.mem_append_right more List.mem_cons_self) absent

theorem durable_of_commit {k : RawConnection} (quiet : Grew (fun call => call ≠ .rollback k ∧ ¬ call.shuts k) v u)
    (committed : w₁.history = .call (.commit k) none :: u.history) (grew : Later w₁ w) : Durable k v w := by
  obtain ⟨before, grown, meets⟩ := quiet
  obtain ⟨later, onward, _⟩ := grew
  exact ⟨later, before, by rw [onward, committed, grown], meets⟩

theorem open_of_durable {k : RawConnection} (durable : Durable k v w)
    (quiet : Grew (· ≠ .commit k) v u)
    (committed : w₁.history = .call (.commit k) none :: u.history) (grew : Later w₁ w) :
    Grew (fun call => ¬ call.shuts k) v u := by
  obtain ⟨later, before, there, spares⟩ := durable
  obtain ⟨before', grown, meets⟩ := quiet
  obtain ⟨later', onward, _⟩ := grew
  have same : (later ++ .call (.commit k) none :: before) ++ v.history =
      (later' ++ .call (.commit k) none :: before') ++ v.history := by
    rw [onward, committed, grown] at there
    simpa only [List.append_assoc, List.cons_append] using there.symm
  have absent : Event.call (.commit k) none ∉ before' := fun member => meets _ member rfl
  obtain ⟨more, rfl⟩ := suffix_of_absent (List.append_cancel_right same) absent
  exact ⟨before', grown, fun e member =>
    meets_mono (fun _ spare => spare.2) (spares e (List.mem_append_right more member))⟩

theorem not_durable_of_spared {k : RawConnection} (spared : Grew (· ≠ .commit k) v w) : ¬ Durable k v w := by
  rintro ⟨later, before, there, _⟩
  obtain ⟨added, grown, meets⟩ := spared
  have same : added ++ v.history = (later ++ .call (.commit k) none :: before) ++ v.history := by
    rw [grown] at there
    simpa only [List.append_assoc, List.cons_append] using there
  have found := List.append_cancel_right same
  exact meets (.call (.commit k) none) (found ▸ List.mem_append_right later List.mem_cons_self) rfl

theorem grew_and {Q R : Call → Prop} (first : Grew Q v u) (second : Grew R v u) :
    Grew (fun call => Q call ∧ R call) v u := by
  obtain ⟨before, grown, meets⟩ := first
  obtain ⟨before', grown', meets'⟩ := second
  have same : before = before' := List.append_cancel_right (grown.symm.trans grown')
  subst same
  refine ⟨before, grown, fun e member => ?_⟩
  have here := meets e member
  have there := meets' e member
  cases e with
  | call made fault => exact ⟨here, there⟩
  | _ => trivial

-- A write that was acknowledged at every level is durable if no transaction scope is around it, or if the
-- scope is on the same connection and that connection is not closed before the scope ends. Otherwise it is
-- lost, unless the client commits that connection itself.
theorem acknowledged_write_durable_iff (s : Session) {x : Routine α} (keeps : x.Keeps (.modest s P) s none)
    {w : World} (idle : s.Idle w) {scope? : Option (Connection × World)} {c : Connection} {v : World}
    (acked : x.acks s w scope? c v) (unrolled : ∀ call, P call → call ≠ .rollback c.raw) :
    let kept := scope? = none ∨ ∃ u, scope? = some (c, u) ∧ Grew (fun call => ¬ call.shuts c.raw) v u
    (kept → Durable c.raw v ((x.run s).after w)) ∧
      ((∀ call, P call → call ≠ .commit c.raw) → Durable c.raw v ((x.run s).after w) → kept) := by
  intro kept
  have placed : s.Placed w := by
    intro d bound
    rw [idle.unbound] at bound
    cases bound
  have fate := acks_outside keeps idle.outside placed (fun _ absurd => by cases absurd) acked
  rcases scope? with - | ⟨d, u⟩
  · obtain ⟨u, committed, grew⟩ := fate.alone rfl
    exact ⟨fun _ => durable_of_commit (grew_same rfl) committed grew, fun _ _ => Or.inl rfl⟩
  · obtain ⟨quiet, ⟨u', committed, grew⟩, lost⟩ := fate.inner d u rfl
    constructor
    · rintro (absurd | ⟨_, ⟨rfl, rfl⟩, opens⟩)
      · cases absurd
      · have standing : Grew (· ≠ .rollback c.raw) v u :=
          grew_mono (fun call quiet => quiet.elim not_rollback_of_unsettling (unrolled call)) quiet
        exact durable_of_commit (grew_and standing opens) committed grew
    · intro spares durable
      rcases lost spares with rfl | ⟨_, spared⟩
      · have uncommitted : Grew (· ≠ .commit d.raw) v u :=
          grew_mono (fun call quiet => quiet.elim not_commit_of_unsettling (spares call)) quiet
        exact Or.inr ⟨u, rfl, open_of_durable durable uncommitted committed grew⟩
      · exact absurd durable (not_durable_of_spared spared)

theorem Routine.acks_update {sql : String} {bind : Statement → Routine Unit} {consumer : Int → Routine Unit} {n : Int}
    (wrote : s.write (fun d => d.runUpdate sql fun t => (bind t).run s) w = .ok n w') (entered : s.entry w = .ok c w₁)
    (ran : c.runUpdate sql (fun t => (bind t).run s) w₁ = .ok n v) : (update sql bind consumer).acks s w none c v := by
  have body : ∀ d, (Stepwise.withStatement d sql bind fun t => step t.runUpdate : Routine Int).run s =
      d.runUpdate sql fun t => (bind t).run s := fun d => (runs s).with_statement d sql bind _
  refine Or.inl ⟨⟨n, w', ?_⟩, c, w₁, entered, Or.inl ⟨rfl, rfl, n, ?_⟩⟩
  · rw [funext body]
    exact wrote
  · rw [body]
    exact ran

-- The server drops the connection of a scope; the next update in the scope is executed on a new one and lost.
theorem acknowledged_write_lost :
    let s : Session := ⟨0, .plain⟩
    let w := World.start [] default 0
    let drop : Connection → Action Unit := fun d => d.raw.update fun t =>
      { t with attributes := t.attributes.insert "closed" (.gives (.bool true)) }
    let update : Routine Int := .update "UPDATE t SET a = 1" (fun _ => .done ()) fun _ => .done ()
    let x : Routine Int := .transact (fun d => .next (.act .client (drop d)) fun _ => update) .null
    (∃ n w', x.run s w = .ok n w') ∧ ∃ u v, x.acks s w (some (.direct ⟨0⟩, u)) (.direct ⟨1⟩) v ∧
      ¬ Durable ⟨1⟩ v ((x.run s).after w) := by
  intro s w drop update x
  have keeps : x.Keeps (.modest s fun _ => False) s none := by
    refine fun d => ⟨fun w₁ => ⟨rfl, Nat.le_refl _, grew_same rfl⟩, fun _ _ _ _ => ?_⟩
    exact Routine.keeps_update trivial (fun _ _ => Routine.keeps_done ()) fun _ => Routine.keeps_done ()
  have run : update.run s = s.runUpdate "UPDATE t SET a = 1" (fun _ => pure ()) fun _ => pure () := Routine.run_update s _ _ _
  have returned : ∃ n w', x.run s w = .ok n w' := by
    change ∃ n w', s.transact (fun d => drop d >>= fun _ => update.run s) .null w = .ok n w'
    rw [run]
    exact ⟨_, _, rfl⟩
  obtain ⟨w₁, w₂, w₃, v, entered, dropped, entry, ran, w₄, wrote⟩ : ∃ w₁ w₂ w₃ v,
      s.enterScope .null w = .ok (.direct ⟨0⟩) w₁ ∧ drop (.direct ⟨0⟩) w₁ = .ok () w₂ ∧
      s.entry w₂ = .ok (.direct ⟨1⟩) w₃ ∧
      (Connection.direct ⟨1⟩).runUpdate "UPDATE t SET a = 1" (fun _ => pure ()) w₃ = .ok (-1) v ∧
      ∃ w₄, s.write (fun d => d.runUpdate "UPDATE t SET a = 1" fun _ => pure ()) w₂ = .ok (-1) w₄ :=
    ⟨_, _, _, _, rfl, rfl, rfl, rfl, _, rfl⟩
  have acked : ∃ u, x.acks s w (some (.direct ⟨0⟩, u)) (.direct ⟨1⟩) v :=
    ⟨_, returned, .direct ⟨0⟩, w₁, entered, Or.inr ⟨(), w₂, dropped, Routine.acks_update wrote entry ran⟩, rfl⟩
  obtain ⟨u, acked⟩ := acked
  refine ⟨returned, u, v, acked, fun durable => ?_⟩
  have settled := acknowledged_write_durable_iff s keeps ⟨rfl, rfl⟩ acked fun _ absurd => absurd.elim
  rcases settled.2 (fun _ absurd => absurd.elim) durable with absurd | ⟨_, absurd, _⟩
  · cases absurd
  · cases absurd

end SqlScope
