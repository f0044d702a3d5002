import SqlScope.Proofs.Accounts

set_option autoImplicit false

namespace SqlScope

open SqlScope.Action

variable {α : Type} {s : Session} {c : Connection} {u w w' w₁ : World} {frees : Prop}
  {seen given shed : List Connection}

theorem acquire_unbinds {f : Failure} (refused : s.acquire w = .error f w') : s.binding w' = none := by
  obtain ⟨v, run, dropped⟩ := discard_run s w
  have missed := create_ends s.source v
  rw [Session.acquire, bind_of_ok run] at refused
  cases created : s.source.create v with
  | ok d v₁ =>
      rw [bind_of_ok created] at refused
      cases refused
  | error e v₁ =>
      rw [bind_of_error created] at refused
      cases refused
      have same := (ends_error missed created).sessions s.index
      exact (congrArg SessionState.binding same).trans (rebinds_binding dropped)

theorem lends_of_found (accounts : Accounts seen w) (known : c ∈ seen) : Lends frees seen [c] [] w w := by
  have same : ∀ d, d ∈ seen ++ [c] ↔ d ∈ seen := by
    intro d
    constructor
    · intro member
      rcases List.mem_append.mp member with old | last
      · exact old
      · exact List.mem_singleton.mp last ▸ known
    · exact List.mem_append_left [c]
  refine ⟨?_, fun _ => rfl, fun _ absurd => (List.not_mem_nil absurd).elim,
    fun d member astray => Or.inr ⟨(same d).mp member, astray⟩, fun _ _ _ astray => astray,
    fun _ _ absurd => (List.not_mem_nil absurd).elim⟩
  exact {
    lent := fun d member => accounts.lent d ((same d).mp member)
    apart := fun p q member member' => accounts.apart p q ((same _).mp member) ((same _).mp member')
    whole := fun k low fault => by
      obtain ⟨p, member, raw⟩ := accounts.whole k low fault
      exact ⟨p, (same _).mpr member, raw⟩
    bound := fun d binds => (same d).mpr (accounts.bound d binds)
    alone := accounts.alone
    unused := accounts.unused
    returned := fun p member => accounts.returned p ((same _).mp member)
    untaken := fun k apart => accounts.untaken k fun p member => apart p ((same _).mpr member)
    unclosed := accounts.unclosed }

theorem entry_lends (frees : Prop) (accounts : Accounts seen w) (lends : s.source = .pool) :
    s.entry.Ends w (fun c => Lends frees seen [c] (s.sheds w) w) (fun _ => Lends frees seen [] (s.sheds w) w) := by
  unfold Ends Session.sheds Session.entry
  by_cases opens : ∃ d, s.binding w = some d ∧ d.ReadsOpen w
  · obtain ⟨d, bound, opens⟩ := opens
    have probed := active_of_open bound opens
    rw [bind_of_ok probed, probed]
    exact lends_of_found accounts (accounts.bound d ⟨s.index, bound⟩)
  · have probe := active_of_unbound_or_shut fun d bound opens' => opens ⟨d, bound, opens'⟩
    cases probed : s.active? w with
    | error f w₁ =>
        rw [bind_of_error probed]
        have same : w₁ = w := ends_error probe probed
        subst same
        exact lends_refl accounts
    | ok r w₁ =>
        obtain ⟨rfl, quiet, same⟩ := ends_ok probe probed
        rw [bind_of_ok probed]
        cases acquired : s.acquire w₁ with
        | error f w₂ =>
            have drops := drops_after_quiet quiet same (ends_error (acquire_ends s w₁) acquired)
            dsimp only
            rw [acquired]
            exact lends_of_drops accounts drops (acquire_unbinds acquired)
        | ok c w₂ =>
            have binds := ends_ok (acquire_ends s w₁) acquired
            dsimp only
            rw [acquired]
            exact lends_of_binds accounts lends (binds_after_quiet quiet same binds)

theorem finish_lends {r : EStateM.Result Failure World α} (accounts : Accounts seen (worldOf r)) :
    Lends frees seen [] [] (worldOf r) (worldOf (s.finish c r)) := by
  by_cases bound : s.binding (worldOf r) = some c
  · obtain ⟨p, rfl, _, plain, _⟩ := accounts.lent c (accounts.bound c ⟨s.index, bound⟩)
    refine lends_of_dropped accounts bound (finish_reaches bound ?_ fun channel severity text _ returns => ?_)
    · exact proxy_close_returns plain
    · exact returns_note returns channel severity text
  · rw [finish_of_other bound]
    exact lends_refl accounts

theorem close_lends (accounts : Accounts seen w) : Lends frees seen [] [] w (s.close.after w) := by
  cases bound : s.binding w with
  | none =>
      rw [after_of_ok (session_close_of_unbound bound)]
      exact lends_refl accounts
  | some c =>
      obtain ⟨p, rfl, _, plain, _⟩ := accounts.lent c (accounts.bound c ⟨s.index, bound⟩)
      refine lends_of_dropped accounts bound (session_close_reaches bound ?_ fun channel severity text _ returns => ?_)
      · exact proxy_close_returns plain
      · exact returns_note returns channel severity text

def Unbinds (w w' : World) : Prop :=
  ∀ i, (w'.sessions.get i).binding = (w.sessions.get i).binding ∨ (w'.sessions.get i).binding = none

theorem unbinds_of_same (same : ∀ i, (w'.sessions.get i).binding = (w.sessions.get i).binding) : Unbinds w w' :=
  fun i => Or.inl (same i)

theorem unbinds_trans (first : Unbinds u w) (second : Unbinds w w') : Unbinds u w' := by
  intro i
  rcases second i with same | gone
  · rw [same]
    exact first i
  · exact Or.inr gone

theorem unbinds_of_releases (releases : Releases s c w w') : Unbinds w w' := by
  intro i
  rw [releases.sessions]
  by_cases here : i = s.index
  · rw [if_pos here]
    exact Or.inr rfl
  · rw [if_neg here]
    exact Or.inl rfl

theorem unbinds_of_drops (drops : Drops s w w') : Unbinds w w' := by
  intro i
  rcases drops.sessions i with same | ⟨_, gone⟩
  · exact Or.inl (congrArg SessionState.binding same)
  · exact Or.inr (congrArg SessionState.binding gone)

theorem unbinds_held {r : EStateM.Result Failure World α} (binds : Binds s c w w₁) (inner : Unbinds w₁ (worldOf r)) :
    Unbinds w (worldOf (s.finish c r)) := by
  have finished : Unbinds (worldOf r) (worldOf (s.finish c r)) := by
    by_cases bound : s.binding (worldOf r) = some c
    · exact unbinds_of_releases (finish_of_bound bound)
    · rw [finish_of_other bound]
      exact unbinds_of_same fun _ => rfl
  intro i
  by_cases here : i = s.index
  · subst here
    right
    change s.binding (worldOf (s.finish c r)) = none
    rw [finish_binding]
    rcases inner s.index with same | gone
    · exact if_pos (same.trans (rebinds_binding binds))
    · change s.binding (worldOf r) = none at gone
      rw [gone]
      exact if_neg fun absurd => by cases absurd
  · have before : (w₁.sessions.get i).binding = (w.sessions.get i).binding := by
      rw [binds.sessions, if_neg here]
    rw [← before]
    exact unbinds_trans inner finished i

structure Conserves (frees : Prop) (seen given shed : List Connection) (w w' : World) : Prop where
  lends : Lends frees seen given shed w w'
  unbinds : Unbinds w w'

theorem conserves_of_spared (accounts : Accounts seen w) (spared : Spared w w') : Conserves frees seen [] [] w w' :=
  ⟨lends_of_spared accounts spared, unbinds_of_same spared.bindings⟩

theorem conserves_trans {given' shed' : List Connection} (first : Conserves frees seen given shed u w)
    (second : Conserves frees (seen ++ given) given' shed' w w') :
    Conserves frees seen (given ++ given') (shed ++ shed') u w' :=
  ⟨lends_trans first.lends second.lends, unbinds_trans first.unbinds second.unbinds⟩

theorem conserves_after (first : Conserves frees seen given shed u w)
    (second : Accounts (seen ++ given) w → Conserves frees (seen ++ given) [] [] w w') :
    Conserves frees seen given shed u w' := by
  have whole := conserves_trans first (second first.lends.accounts)
  rw [List.append_nil, List.append_nil] at whole
  exact whole

theorem conserves_before (accounts : Accounts seen u) (first : Spared u w)
    (second : Accounts seen w → Conserves frees seen given shed w w') : Conserves frees seen given shed u w' := by
  have quiet : Conserves frees seen [] [] u w := conserves_of_spared accounts first
  have all : seen ++ [] = seen := List.append_nil seen
  have before := quiet.lends.accounts
  rw [all] at before
  have after := second before
  rw [← all] at after
  exact conserves_trans quiet after

theorem conserves_held (accounts : Accounts seen w) (lends : s.source = .pool) (entered : s.entry w = .ok c w₁)
    {body : Connection → Action α}
    (inner : Accounts (seen ++ [c]) w₁ → Conserves frees (seen ++ [c]) given shed w₁ ((body c).after w₁)) :
    Conserves frees seen (c :: given) (s.sheds w ++ shed) w ((s.holding body).after w) := by
  have ends := entry_lends frees accounts lends
  have first := ends_ok ends entered
  have second := inner first.accounts
  have both := lends_trans first second.lends
  rcases entered_cases entered with ⟨rfl, _, run⟩ | ⟨binds, run⟩
  · rw [Action.after, run body]
    exact ⟨both, second.unbinds⟩
  · have last := lends_trans both (finish_lends (s := s) (c := c) (r := body c w₁) both.accounts)
    rw [List.append_nil, List.append_nil] at last
    rw [Action.after, run body]
    exact ⟨last, unbinds_held binds second.unbinds⟩

theorem conserves_refused {f : Failure} (accounts : Accounts seen w) (lends : s.source = .pool)
    (refused : s.entry w = .error f w₁) (body : Connection → Action α) :
    Conserves frees seen [] (s.sheds w) w ((s.holding body).after w) := by
  rcases holding_cases s w with ⟨e, v, found, drops, _, run⟩ | ⟨d, found, _⟩ | ⟨d, v, found, _⟩
  · rw [found] at refused
    cases refused
    rw [after_of_error (run body)]
    exact ⟨ends_error (entry_lends frees accounts lends) found, unbinds_of_drops drops⟩
  · rw [found] at refused
    cases refused
  · rw [found] at refused
    cases refused

theorem begins_sparing (s : Session) (savepoint : Value) (c : Connection) : sparing.Kept (s.begins savepoint c) :=
  kept_bind (set_scope_sparing s true) fun _ => on_sparing (begins_acts c savepoint)

theorem concludes_sparing (s : Session) (c : Connection) (name : Option String) (r : Except Failure α) :
    sparing.Kept (s.concludes c name r) :=
  kept_ensuring (set_scope_sparing s false) (on_sparing (concludes_acts c name r))

theorem conserves_of_kept {a : Action α} (kept : sparing.Kept a) (accounts : Accounts seen w) :
    Conserves frees seen [] [] w (a.after w) :=
  conserves_of_spared accounts (kept w trivial).2

theorem conserves_scope {savepoint : Value} {name : Option String} {op : Connection → Action α}
    (accounts : Accounts seen w) (begun : s.begins savepoint c w = .ok name w₁)
    (inner : Accounts seen w₁ → Conserves frees seen given shed w₁ ((op c).after w₁)) :
    Conserves frees seen given shed w ((s.scope op savepoint c).after w) := by
  have begins := (begins_sparing s savepoint c w trivial).2
  rw [after_of_ok begun] at begins
  obtain ⟨r, ended⟩ := after_outcome_bind (β := α) (op c) w₁
  rw [Action.after, scope_of_begun begun, ended]
  refine conserves_before accounts begins fun accounts₁ => conserves_after (inner accounts₁) fun accounts₂ => ?_
  exact conserves_of_kept (concludes_sparing s c name r) accounts₂

theorem conserves_unbegun {savepoint : Value} {f : Failure} (accounts : Accounts seen w)
    (refused : s.begins savepoint c w = .error f w₁) (op : Connection → Action α) :
    Conserves frees seen [] [] w ((s.scope op savepoint c).after w) := by
  have begins := (begins_sparing s savepoint c w trivial).2
  rw [after_of_error refused] at begins
  rw [Action.after, scope_of_refused refused]
  refine conserves_before accounts begins fun accounts₁ => ?_
  have quits : sparing.Kept (s.setScope false >>= fun _ => (throw f : Action α)) :=
    kept_bind (set_scope_sparing s false) fun _ => kept_throw f
  exact conserves_of_kept quits accounts₁

theorem conserves_written {body : Connection → Action α}
    (inner : Conserves frees seen given shed w ((body c).after w)) :
    Conserves frees seen given shed w ((s.written body c).after w) := by
  obtain ⟨r, ended⟩ := after_outcome_bind (β := α) (body c) w
  rw [Action.after, Session.written, ended]
  refine conserves_after inner fun accounts₁ => ?_
  cases r with
  | ok v =>
      have commits : sparing.Kept (s.commitWrite c >>= fun _ => pure v) :=
        kept_bind (on_sparing (commit_write_acts s c)) fun _ => kept_pure v
      exact conserves_of_kept commits accounts₁
  | error f =>
      have undoes : sparing.Kept (s.undoWrite c >>= fun _ => (throw f : Action α)) :=
        kept_bind (on_sparing (undo_write_acts s c)) fun _ => kept_throw f
      exact conserves_of_kept undoes accounts₁

theorem works_sparing {held : Option RawConnection} {a : Action α} (works : Routine.Works (fun _ => True) held a) :
    sparing.Kept a := by
  refine acts_sparing (fun call meets => ?_) works
  obtain ⟨k, _, work⟩ := meets
  exact (Call.work_on call work).2

theorem unbinds_of_close : Unbinds w (s.close.after w) := by
  cases bound : s.binding w with
  | none =>
      rw [after_of_ok (session_close_of_unbound bound)]
      exact unbinds_of_same fun _ => rfl
  | some c => exact unbinds_of_releases (session_close_of_bound bound)

theorem conserves_closing (accounts : Accounts seen w) (allowed : frees) (known : c ∈ seen) :
    Conserves frees seen [] [] w (c.close.after w) := by
  have closes := ends_after (R := Closes c w) (close_ends c w)
  exact ⟨lends_of_close accounts allowed known,
    unbinds_of_same fun i => congrArg SessionState.binding (closes.sessions i)⟩

theorem lending_conserves {x : Routine α} (lends : s.source = .pool) (runs : Lending frees s seen x w given shed)
    (accounts : Accounts seen w) : Conserves frees seen given shed w ((x.run s).after w) := by
  induction runs with
  | work k works => exact conserves_of_kept (works_sparing works) accounts
  | client conducts => exact conserves_of_spared accounts (spared_of_conducts conducts)
  | closing allowed known => exact conserves_closing accounts allowed known
  | other lends' runs ih => exact ih lends' accounts
  | next first ran rest ihx ihk =>
      have early := ihx lends accounts
      rw [after_of_ok ran] at early
      rw [Routine.run, after_bind_of_ok ran]
      exact conserves_trans early (ihk lends early.lends.accounts)
  | stopped first ran ih =>
      have early := ih lends accounts
      rw [after_of_error ran] at early
      rw [Routine.run, after_of_error (bind_of_error ran)]
      exact early
  | caught runs ih =>
      rw [Routine.run, after_outcome]
      exact ih lends accounts
  | holding entered runs ih => exact conserves_held accounts lends entered (ih lends)
  | unheld refused => exact conserves_refused accounts lends refused _
  | write entered runs ih =>
      rw [Routine.run, write_eq]
      exact conserves_held accounts lends entered fun accounts₁ => conserves_written (ih lends accounts₁)
  | unwritten refused =>
      rw [Routine.run, write_eq]
      exact conserves_refused accounts lends refused _
  | scope outside entered begun runs ih =>
      rw [Routine.run, Action.after, transact_outside outside]
      exact conserves_held accounts lends entered fun accounts₁ => conserves_scope accounts₁ begun (ih lends)
  | unbegun outside entered failed =>
      rw [Routine.run, Action.after, transact_outside outside]
      rw [← List.append_nil (Session.sheds _ _)]
      exact conserves_held accounts lends entered fun accounts₁ => conserves_unbegun accounts₁ failed _
  | unscoped outside refused =>
      rw [Routine.run, Action.after, transact_outside outside]
      exact conserves_refused accounts lends refused _
  | nested inside =>
      rw [Routine.run, after_of_error (transact_in_scope inside _ _)]
      exact ⟨lends_refl accounts, unbinds_of_same fun _ => rfl⟩
  | close => exact ⟨close_lends accounts, unbinds_of_close⟩

theorem start_accounts (connections : List RawConnectionState) (pool : PoolState) (rewinds : Nat) :
    Accounts [] (World.start connections pool rewinds) where
  lent _ absurd := (List.not_mem_nil absurd).elim
  apart _ _ absurd := (List.not_mem_nil absurd).elim
  whole _ absurd := (Nat.not_lt_zero _ absurd).elim
  bound _ := by
    rintro ⟨i, absurd⟩
    cases absurd
  alone _ _ _ absurd := by cases absurd
  unused _ _ := rfl
  returned _ absurd := (List.not_mem_nil absurd).elim
  untaken _ _ := rfl
  unclosed := rfl

theorem start_unbound {connections : List RawConnectionState} {pool : PoolState} {rewinds : Nat}
    (unbinds : Unbinds (World.start connections pool rewinds) w) (c : Connection) : ¬ w.binds c := by
  rintro ⟨i, bound⟩
  rcases unbinds i with same | gone
  · rw [same] at bound
    cases bound
  · rw [gone] at bound
    cases bound

theorem returns_of_unbound (accounts : Accounts given w) (unbound : ∀ c, ¬ w.binds c)
    (strays : ∀ c ∈ given, c.Astray w → c ∈ shed) {k : RawConnection} (kept : ∀ c ∈ shed, c.raw ≠ k) :
    w.returns k = if k.index < w.opened ∧ (w.connections.get k.index).openFault = none then 1 else 0 := by
  by_cases lent : ∃ p, .pooled p ∈ given ∧ p.raw = k
  · obtain ⟨p, member, rfl⟩ := lent
    obtain ⟨q, same, _, _, low, fault⟩ := accounts.lent _ member
    cases same
    have back : (Connection.pooled p).isOut w = false := by
      cases out : (Connection.pooled p).isOut w with
      | false => rfl
      | true => exact absurd rfl (kept _ (strays _ member ⟨out, unbound _⟩))
    rw [accounts.returned p member, back, if_neg Bool.false_ne_true, if_pos ⟨low, fault⟩]
  · have apart : ∀ p, .pooled p ∈ given → p.raw ≠ k := fun p member same => lent ⟨p, member, same⟩
    rw [accounts.untaken k apart, if_neg]
    rintro ⟨low, fault⟩
    exact lent (accounts.whole k low fault)

theorem returns_le_one (accounts : Accounts given w) (k : RawConnection) : w.returns k ≤ 1 := by
  by_cases lent : ∃ p, .pooled p ∈ given ∧ p.raw = k
  · obtain ⟨p, member, rfl⟩ := lent
    rw [accounts.returned p member]
    split <;> omega
  · rw [accounts.untaken k fun p member same => lent ⟨p, member, same⟩]
    exact Nat.zero_le 1

theorem returns_of_astray (accounts : Accounts given w) (member : c ∈ given) (astray : c.Astray w) :
    w.returns c.raw = 0 := by
  obtain ⟨p, rfl, _⟩ := accounts.lent c member
  exact (accounts.returned p member).trans (if_pos astray.1)

-- What was lent is handed back exactly once, except a connection that an operation dropped although the
-- pool still waited for it: that one is handed back only if the client closes it.
theorem lent_connections_returned (lends : s.source = .pool) (connections : List RawConnectionState)
    (pool : PoolState) (rewinds : Nat) {x : Routine α}
    (runs : Lending frees s [] x (World.start connections pool rewinds) given shed) :
    let w := World.start connections pool rewinds
    let w' := (x.run s).after w
    w'.closings = 0 ∧
    (∀ k : RawConnection, w'.returns k ≤ 1) ∧
    (∀ k : RawConnection, (∀ c ∈ shed, c.raw ≠ k) →
      w'.returns k = if k.index < w'.opened ∧ (w.connections.get k.index).openFault = none then 1 else 0) ∧
    (¬ frees → ∀ c ∈ shed, w'.returns c.raw = 0) := by
  intro w w'
  obtain ⟨lends', unbinds⟩ := lending_conserves lends runs (start_accounts connections pool rewinds)
  have accounts : Accounts given w' := lends'.accounts
  refine ⟨accounts.unclosed, returns_le_one accounts, fun k kept => ?_, fun closeless c member => ?_⟩
  · have strays : ∀ c ∈ given, c.Astray w' → c ∈ shed := by
      intro c member astray
      rcases lends'.strays c member astray with dropped | ⟨absurd, _⟩
      · exact dropped
      · cases absurd
    rw [← lends'.faults]
    exact returns_of_unbound accounts (start_unbound unbinds) strays kept
  · exact returns_of_astray accounts (lends'.listed c member) (lends'.lost closeless c member)

-- The first connection of the pool reads as closed from the start: the inner operation drops it, and its
-- update is executed on the second one.
theorem lent_connection_dropped :
    let s : Session := ⟨0, .pool⟩
    let broken : RawConnectionState := { (default : RawConnectionState) with attributes := [("closed", .gives (.bool true))] }
    let w := World.start [broken, default] default 0
    let update : Routine Int := .update "UPDATE t SET a = 1" (fun _ => .done ()) fun _ => .done ()
    let x : Routine Int := .holding fun _ => .holding fun _ => update
    ((x.run s).after w).returns ⟨0⟩ = 0 ∧ ((x.run s).after w).returns ⟨1⟩ = 1 ∧ ((x.run s).after w).closings = 0 := by
  intro s broken w update x
  have outer : s.entry w = .ok (.pooled ⟨0, ⟨0⟩⟩) (s.entry.after w) := rfl
  have inner : s.entry (s.entry.after w) = .ok (.pooled ⟨1, ⟨1⟩⟩) (s.entry.after (s.entry.after w)) := rfl
  have kept : s.sheds w = [] := rfl
  have dropped : s.sheds (s.entry.after w) = [.pooled ⟨0, ⟨0⟩⟩] := rfl
  have keeps : update.Keeps .lending s none :=
    Routine.keeps_update trivial (fun _ _ => Routine.keeps_done ()) fun _ => Routine.keeps_done ()
  obtain ⟨given, shed, within⟩ : ∃ given shed, Lending False s [.pooled ⟨0, ⟨0⟩⟩, .pooled ⟨1, ⟨1⟩⟩] update
      (s.entry.after (s.entry.after w)) given shed := lending_of_keeps keeps _ _
  have runs : Lending False s [] x w _ (s.sheds w ++ (s.sheds (s.entry.after w) ++ shed)) :=
    .holding outer (.holding inner within)
  rw [kept, dropped] at runs
  obtain ⟨unclosed, _, _, lost⟩ := lent_connections_returned rfl [broken, default] default 0 runs
  have run : x.run s = s.holding fun _ => s.holding fun _ =>
      s.runUpdate "UPDATE t SET a = 1" (fun _ => pure ()) fun _ => pure () :=
    congrArg s.holding (funext fun _ => congrArg s.holding (funext fun _ => Routine.run_update s _ _ _))
  have returned : ((x.run s).after w).returns ⟨1⟩ = 1 := by
    rw [run]
    decide +kernel
  exact ⟨lost id (.pooled ⟨0, ⟨0⟩⟩) List.mem_cons_self, returned, unclosed⟩

end SqlScope
