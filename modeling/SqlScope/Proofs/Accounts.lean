import SqlScope.Proofs.Balance
import SqlScope.Proofs.Lending

set_option autoImplicit false

namespace SqlScope

open SqlScope.Action

variable {α : Type} {s : Session} {c : Connection} {p : Proxy} {u w w' : World} {frees : Prop}
  {seen given shed : List Connection}

def Call.isClose : Call → Bool
  | .close _ => true
  | _ => false

def World.returns (w : World) (k : RawConnection) : Nat := w.count (Call.ends true k)

def World.closings (w : World) : Nat := w.count Call.isClose

def World.binds (w : World) (c : Connection) : Prop := ∃ i, (w.sessions.get i).binding = some c

def Connection.Astray (c : Connection) (w : World) : Prop := c.isOut w = true ∧ ¬ w.binds c

def Proxy.Plain (p : Proxy) (w : World) : Prop :=
  (w.proxies.get p.index).bearing.2 = (default : ProxyState).bearing.2

structure Returns (p : Proxy) (w w' : World) : Prop where
  sessions : ∀ i, w'.sessions.get i = w.sessions.get i
  opened : w'.opened = w.opened
  handles : w'.handles = w.handles
  connections : ∀ i, w'.connections.get i = w.connections.get i
  others : ∀ i, i ≠ p.index → w'.proxies.get i = w.proxies.get i
  spent : (w'.proxies.get p.index).released.isTruthy = true
  plain : p.Plain w'
  returned : ∀ k, w'.returns k =
    w.returns k + if (Connection.pooled p).isOut w = true ∧ p.raw = k then 1 else 0
  unclosed : w'.closings = w.closings

theorem is_out_pooled (p : Proxy) (w : World) :
    (Connection.pooled p).isOut w = !(w.proxies.get p.index).released.isTruthy := rfl

theorem held_of_plain (plain : p.Plain w) : (w.proxies.get p.index).held p = .lent p.raw := by
  have clean : (w.proxies.get p.index).attributes.get? "_connection" = none := congrArg Prod.fst plain
  rw [ProxyState.held, clean]
  rfl

theorem returns_of_spent (plain : p.Plain w) (released : (w.proxies.get p.index).released.isTruthy = true) :
    Returns p w w where
  sessions _ := rfl
  opened := rfl
  handles := rfl
  connections _ := rfl
  others _ _ := rfl
  spent := released
  plain := plain
  returned k := by simp [is_out_pooled, released]
  unclosed := rfl

theorem returns_note (returns : Returns p w w') (channel : Channel) (severity : Severity) (text : String) :
    Returns p w { w' with history := .log channel severity text :: w'.history } :=
  { returns with
    returned := fun k => by
      rw [← returns.returned]
      simp [World.returns, World.count, Event.calls]
    unclosed := by
      rw [← returns.unclosed]
      simp [World.closings, World.count, Event.calls] }

theorem returns_of_handed (plain : p.Plain w) (out : (Connection.pooled p).isOut w = true) (pool : PoolState)
    (fault : Option Fault) :
    Returns p w { p.marked w with pool, history := .call (.giveBack (.lent p.raw)) fault :: w.history } where
  sessions _ := rfl
  opened := rfl
  handles := rfl
  connections _ := rfl
  others i other := (Table.get_put _ _ _ _).trans (if_neg (Ne.symm other))
  spent := by
    change ((p.marked w).proxies.get p.index).released.isTruthy = true
    rw [marked_own]
    rfl
  plain := by
    change ((p.marked w).proxies.get p.index).bearing.2 = _
    rw [marked_own]
    exact plain
  returned k := by
    by_cases same : p.raw = k <;> simp [World.returns, World.count, Event.calls, Call.ends, out, same]
  unclosed := by simp [World.closings, World.count, Event.calls, Call.isClose]

theorem proxy_close_returns (plain : p.Plain w) :
    p.close.Ends w (fun _ => Returns p w) (fun _ => Returns p w) := by
  unfold Ends
  by_cases released : (w.proxies.get p.index).released.isTruthy
  · rw [proxy_close_of_released released]
    exact returns_of_spent plain released
  · have out : (Connection.pooled p).isOut w = true := by simp [is_out_pooled, released]
    have own : (w.proxies.get p.index).attributes.get? "_pool" = none := congrArg Prod.snd plain
    have given := give_back_marked own
    rw [held_of_plain plain] at given
    rw [proxy_close_of_unreleased released]
    cases due : w.pool.giveBackFaults.due with
    | some f =>
        rw [due] at given
        rw [bind_of_error (given.trans rfl)]
        exact returns_of_handed plain out _ _
    | none =>
        rw [due] at given
        rw [bind_of_ok (given.trans rfl)]
        exact returns_note (returns_of_handed plain out _ _) _ _ _

-- The books of a run that has seen some connections: they are the ones that the pool has lent, each of them
-- is bound to one session at most, and all but those that are out were handed back once.
structure Accounts (seen : List Connection) (w : World) : Prop where
  lent : ∀ c ∈ seen, ∃ p, c = .pooled p ∧ p.index < w.handles ∧ p.Plain w ∧ p.raw.index < w.opened ∧
    (w.connections.get p.raw.index).openFault = none
  apart : ∀ p q, .pooled p ∈ seen → .pooled q ∈ seen → p.index = q.index ∨ p.raw = q.raw → p = q
  whole : ∀ k : RawConnection, k.index < w.opened → (w.connections.get k.index).openFault = none →
    ∃ p, .pooled p ∈ seen ∧ p.raw = k
  bound : ∀ c, w.binds c → c ∈ seen
  alone : ∀ i j c, (w.sessions.get i).binding = some c → (w.sessions.get j).binding = some c → i = j
  unused : ∀ i, w.handles ≤ i → (w.proxies.get i).bearing = (default : ProxyState).bearing
  returned : ∀ p, .pooled p ∈ seen → w.returns p.raw = if (Connection.pooled p).isOut w then 0 else 1
  untaken : ∀ k : RawConnection, (∀ p, .pooled p ∈ seen → p.raw ≠ k) → w.returns k = 0
  unclosed : w.closings = 0

-- A part of a run: what was given in it is accounted for, and what is astray at its end was dropped in it
-- or astray before. If the client closes nothing, what is astray stays so.
structure Lends (frees : Prop) (seen given shed : List Connection) (w w' : World) : Prop where
  accounts : Accounts (seen ++ given) w'
  faults : ∀ i, (w'.connections.get i).openFault = (w.connections.get i).openFault
  listed : ∀ c ∈ shed, c ∈ seen ++ given
  strays : ∀ c ∈ seen ++ given, c.Astray w' → c ∈ shed ∨ (c ∈ seen ∧ c.Astray w)
  stays : ¬ frees → ∀ c ∈ seen, c.Astray w → c.Astray w'
  lost : ¬ frees → ∀ c ∈ shed, c.Astray w'

theorem lends_refl (accounts : Accounts seen w) : Lends frees seen [] [] w w := by
  have all : seen ++ [] = seen := List.append_nil seen
  refine ⟨?_, fun _ => rfl, fun _ absurd => (List.not_mem_nil absurd).elim, fun c member astray => ?_,
    fun _ _ _ astray => astray, fun _ _ absurd => (List.not_mem_nil absurd).elim⟩
  · rw [all]
    exact accounts
  · rw [all] at member
    exact Or.inr ⟨member, astray⟩

theorem lends_trans {given' shed' : List Connection} (first : Lends frees seen given shed u w)
    (second : Lends frees (seen ++ given) given' shed' w w') :
    Lends frees seen (given ++ given') (shed ++ shed') u w' := by
  have all : seen ++ (given ++ given') = seen ++ given ++ given' := (List.append_assoc _ _ _).symm
  refine ⟨?_, fun i => (second.faults i).trans (first.faults i), fun c member => ?_, fun c member astray => ?_,
    fun closeless c member astray => ?_, fun closeless c member => ?_⟩
  · rw [all]
    exact second.accounts
  · rw [all]
    rcases List.mem_append.mp member with early | late
    · exact List.mem_append_left _ (first.listed c early)
    · exact second.listed c late
  · rw [all] at member
    rcases second.strays c member astray with dropped | ⟨known, astray⟩
    · exact Or.inl (List.mem_append_right shed dropped)
    · rcases first.strays c known astray with dropped | before
      · exact Or.inl (List.mem_append_left shed' dropped)
      · exact Or.inr before
  · exact second.stays closeless c (List.mem_append_left given member) (first.stays closeless c member astray)
  · rcases List.mem_append.mp member with early | late
    · exact second.stays closeless c (first.listed c early) (first.lost closeless c early)
    · exact second.lost closeless c late

theorem lends_still (accounts : Accounts seen w')
    (faults : ∀ i, (w'.connections.get i).openFault = (w.connections.get i).openFault)
    (strays : ∀ c ∈ seen, c.Astray w' → c.Astray w) (stays : ¬ frees → ∀ c ∈ seen, c.Astray w → c.Astray w') :
    Lends frees seen [] [] w w' := by
  have all : seen ++ [] = seen := List.append_nil seen
  refine ⟨?_, faults, fun _ absurd => (List.not_mem_nil absurd).elim, fun c member astray => ?_, stays,
    fun _ _ absurd => (List.not_mem_nil absurd).elim⟩
  · rw [all]
    exact accounts
  · rw [all] at member
    exact Or.inr ⟨member, strays c member astray⟩

structure Spared (w w' : World) : Prop where
  bindings : ∀ i, (w'.sessions.get i).binding = (w.sessions.get i).binding
  opened : w'.opened = w.opened
  handles : w.handles ≤ w'.handles
  faults : ∀ i, (w'.connections.get i).openFault = (w.connections.get i).openFault
  bearing : ∀ i, (w'.proxies.get i).bearing = (w.proxies.get i).bearing
  grew : Grew (fun call => call.closes = false) w w'

def sparing : Law where
  inv _ := True
  rel := Spared
  refl _ := ⟨fun _ => rfl, rfl, Nat.le_refl _, fun _ => rfl, fun _ => rfl, grew_same rfl⟩
  trans _ _ _ first second :=
    ⟨fun i => (second.bindings i).trans (first.bindings i), second.opened.trans first.opened,
      Nat.le_trans first.handles second.handles, fun i => (second.faults i).trans (first.faults i),
      fun i => (second.bearing i).trans (first.bearing i), grew_trans first.grew second.grew⟩

theorem acts_sparing {P : Call → Prop} (closeless : ∀ call, P call → call.closes = false) {a : Action α}
    (kept : (acting P).Kept a) : sparing.Kept a :=
  kept_weaken kept (fun _ _ => trivial) fun _ _ _ acts =>
    ⟨trivial, fun i => congrArg SessionState.binding (acts.sessions i), acts.opened, acts.handles,
      fun i => open_fault_of_standing (acts.standing i), fun i => congrArg _ (acts.proxies i),
      grew_mono closeless acts.grew⟩

theorem on_sparing {k : RawConnection} {a : Action α} (kept : (acting (Call.On k)).Kept a) : sparing.Kept a :=
  acts_sparing (fun _ on => on.2) kept

theorem set_scope_sparing (s : Session) (b : Bool) : sparing.Kept (s.setScope b) := by
  refine fun w _ => ⟨trivial, fun i => ?_, rfl, Nat.le_refl _, fun _ => rfl, fun _ => rfl, grew_same rfl⟩
  rw [after_of_ok (set_scope_ok s b w)]
  by_cases same : s.index = i
  · subst same
    simp only [Table.get_put, if_true]
  · simp only [Table.get_put, if_neg same]

theorem spared_of_conducts (conducts : Conducts w w') : Spared w w' where
  bindings i := congrArg SessionState.binding (conducts.sessions i)
  opened := conducts.opened
  handles := conducts.handles
  faults := conducts.faults
  bearing := conducts.bearing
  grew := conducts.grew

theorem is_out_of_bearing (same : ∀ i, (w'.proxies.get i).bearing = (w.proxies.get i).bearing) (c : Connection) :
    c.isOut w' = c.isOut w := by
  cases c with
  | direct k => rfl
  | pooled p =>
      have mark : (w'.proxies.get p.index).released = (w.proxies.get p.index).released := congrArg Prod.fst (same p.index)
      rw [is_out_pooled, is_out_pooled, mark]

theorem closings_of_closeless (grew : Grew (fun call => call.closes = false) w w') : w'.closings = w.closings := by
  refine count_grew grew fun call closeless => ?_
  cases call <;> simp_all [Call.closes, Call.isClose]

theorem returns_of_closeless (grew : Grew (fun call => call.closes = false) w w') (k : RawConnection) :
    w'.returns k = w.returns k := by
  refine count_grew grew fun call closeless => Bool.eq_false_iff.mpr fun ends => ?_
  rw [closes_of_ends ends] at closeless
  cases closeless

theorem accounts_spared (accounts : Accounts seen w) (spared : Spared w w') : Accounts seen w' where
  lent c member := by
    obtain ⟨p, rfl, index, plain, raw, fault⟩ := accounts.lent c member
    exact ⟨p, rfl, Nat.lt_of_lt_of_le index spared.handles, (congrArg Prod.snd (spared.bearing p.index)).trans plain,
      by rw [spared.opened]; exact raw, (spared.faults _).trans fault⟩
  apart := accounts.apart
  whole k low fault := by
    rw [spared.opened] at low
    exact accounts.whole k low ((spared.faults _).symm.trans fault)
  bound c := by
    rintro ⟨i, bound⟩
    exact accounts.bound c ⟨i, (spared.bindings i).symm.trans bound⟩
  alone i j c first second :=
    accounts.alone i j c ((spared.bindings i).symm.trans first) ((spared.bindings j).symm.trans second)
  unused i high := (spared.bearing i).trans (accounts.unused i (Nat.le_trans spared.handles high))
  returned p member := by
    rw [returns_of_closeless spared.grew, is_out_of_bearing spared.bearing]
    exact accounts.returned p member
  untaken k apart := (returns_of_closeless spared.grew k).trans (accounts.untaken k apart)
  unclosed := (closings_of_closeless spared.grew).trans accounts.unclosed

theorem astray_of_spared (spared : Spared w w') (c : Connection) : c.Astray w' ↔ c.Astray w := by
  simp only [Connection.Astray, World.binds, spared.bindings, is_out_of_bearing spared.bearing]

theorem lends_of_spared (accounts : Accounts seen w) (spared : Spared w w') : Lends frees seen [] [] w w' :=
  lends_still (accounts_spared accounts spared) spared.faults (fun c _ => (astray_of_spared spared c).mp)
    fun _ c _ => (astray_of_spared spared c).mpr

section

variable {bindings : Table SessionState}

theorem out_after_return (accounts : Accounts seen w) (known : .pooled p ∈ seen)
    (returns : Returns p { w with sessions := bindings } w') {q : Proxy} (member : .pooled q ∈ seen) (other : q ≠ p) :
    (Connection.pooled q).isOut w' = (Connection.pooled q).isOut w := by
  have distinct : q.index ≠ p.index := fun same => other (accounts.apart q p member known (Or.inl same))
  rw [is_out_pooled, is_out_pooled, returns.others q.index distinct]

theorem in_after_return (returns : Returns p { w with sessions := bindings } w') :
    (Connection.pooled p).isOut w' = false := by
  rw [is_out_pooled, returns.spent]
  rfl

variable (lets : ∀ i, (bindings.get i).binding = (w.sessions.get i).binding ∨
  (bindings.get i).binding = none ∧ (w.sessions.get i).binding = some (.pooled p))

include lets

theorem bound_before_return (returns : Returns p { w with sessions := bindings } w') {i : Nat}
    (bound : (w'.sessions.get i).binding = some c) : (w.sessions.get i).binding = some c := by
  have same : w'.sessions.get i = bindings.get i := returns.sessions i
  rw [same] at bound
  rcases lets i with kept | ⟨gone, _⟩
  · exact kept.symm.trans bound
  · rw [gone] at bound
    cases bound

theorem binds_after_return (returns : Returns p { w with sessions := bindings } w') (other : c ≠ .pooled p)
    (binds : w.binds c) : w'.binds c := by
  obtain ⟨i, bound⟩ := binds
  have same : w'.sessions.get i = bindings.get i := returns.sessions i
  rcases lets i with kept | ⟨_, there⟩
  · exact ⟨i, by rw [same, kept, bound]⟩
  · exact absurd (Option.some.inj (bound.symm.trans there)) other

theorem accounts_returned (accounts : Accounts seen w) (known : .pooled p ∈ seen)
    (returns : Returns p { w with sessions := bindings } w') : Accounts seen w' where
  lent c member := by
    obtain ⟨q, rfl, index, plain, raw, fault⟩ := accounts.lent c member
    have handles : w'.handles = w.handles := returns.handles
    have opened : w'.opened = w.opened := returns.opened
    refine ⟨q, rfl, by omega, ?_, by omega, by rw [returns.connections]; exact fault⟩
    by_cases same : q = p
    · subst same
      exact returns.plain
    · have distinct : q.index ≠ p.index := fun index => same (accounts.apart q p member known (Or.inl index))
      rw [Proxy.Plain, returns.others q.index distinct]
      exact plain
  apart := accounts.apart
  whole k low fault := by
    have opened : w'.opened = w.opened := returns.opened
    rw [returns.connections] at fault
    exact accounts.whole k (by omega) fault
  bound c binds := by
    obtain ⟨i, bound⟩ := binds
    exact accounts.bound c ⟨i, bound_before_return lets returns bound⟩
  alone i j c first second :=
    accounts.alone i j c (bound_before_return lets returns first) (bound_before_return lets returns second)
  unused i high := by
    obtain ⟨q, same, index, _⟩ := accounts.lent _ known
    cases same
    have handles : w'.handles = w.handles := returns.handles
    rw [returns.others i (by omega)]
    exact accounts.unused i (by omega)
  returned q member := by
    have before : ({ w with sessions := bindings } : World).returns q.raw = w.returns q.raw := rfl
    have out : (Connection.pooled p).isOut { w with sessions := bindings } = (Connection.pooled p).isOut w := rfl
    rw [returns.returned, before, out, accounts.returned q member]
    by_cases same : q = p
    · subst same
      rw [in_after_return returns]
      cases (Connection.pooled q).isOut w <;> simp
    · have distinct : p.raw ≠ q.raw := fun raw => same (accounts.apart q p member known (Or.inr raw.symm))
      rw [out_after_return accounts known returns member same]
      simp [distinct]
  untaken k apart := by
    have before : ({ w with sessions := bindings } : World).returns k = w.returns k := rfl
    rw [returns.returned, before, accounts.untaken k apart, if_neg fun same => apart p known same.2]
  unclosed := returns.unclosed.trans accounts.unclosed

theorem lends_of_returned (accounts : Accounts seen w) (known : .pooled p ∈ seen)
    (allowed : frees ∨ w.binds (.pooled p)) (returns : Returns p { w with sessions := bindings } w') :
    Lends frees seen [] [] w w' := by
  refine lends_still (accounts_returned lets accounts known returns) (fun i => ?_) (fun c member astray => ?_)
    fun closeless c member astray => ?_
  · exact congrArg RawConnectionState.openFault (returns.connections i)
  · obtain ⟨q, rfl, _⟩ := accounts.lent c member
    obtain ⟨out, unbound⟩ := astray
    have other : q ≠ p := by
      rintro rfl
      rw [in_after_return returns] at out
      cases out
    rw [out_after_return accounts known returns member other] at out
    exact ⟨out, fun binds => unbound (binds_after_return lets returns (fun same => other (by cases same; rfl)) binds)⟩
  · obtain ⟨q, rfl, _⟩ := accounts.lent c member
    obtain ⟨out, unbound⟩ := astray
    have other : q ≠ p := by
      rintro rfl
      exact allowed.elim closeless unbound
    refine ⟨(out_after_return accounts known returns member other).trans out, ?_⟩
    rintro ⟨i, bound⟩
    exact unbound ⟨i, bound_before_return lets returns bound⟩

end

theorem lends_of_close (accounts : Accounts seen w) (allowed : frees) (known : c ∈ seen) :
    Lends frees seen [] [] w (c.close.after w) := by
  obtain ⟨p, rfl, _, plain, _⟩ := accounts.lent c known
  have returns := ends_after (R := Returns p w) (proxy_close_returns plain)
  exact lends_of_returned (fun _ => Or.inl rfl) accounts known (Or.inl allowed) returns

theorem lends_of_dropped (accounts : Accounts seen w) (bound : s.binding w = some (.pooled p))
    (returns : Returns p (s.dropped w) w') : Lends frees seen [] [] w w' := by
  refine lends_of_returned (fun i => ?_) accounts (accounts.bound _ ⟨s.index, bound⟩) (Or.inr ⟨s.index, bound⟩) returns
  rw [binding_put]
  by_cases same : i = s.index
  · subst same
    rw [if_pos rfl]
    exact Or.inr ⟨rfl, bound⟩
  · rw [if_neg same]
    exact Or.inl rfl

theorem closings_of_opening (grew : Grew (fun call => call.opens = true) w w') : w'.closings = w.closings := by
  refine count_grew grew fun call opens => ?_
  cases call <;> simp_all [Call.opens, Call.isClose]

theorem older_of_seen (accounts : Accounts seen w) (member : .pooled p ∈ seen) :
    p.index < w.handles ∧ p.raw.index < w.opened := by
  obtain ⟨q, same, index, _, raw, _⟩ := accounts.lent _ member
  cases same
  exact ⟨index, raw⟩

section

variable (opening : Opening w { w' with sessions := w.sessions })

include opening

theorem is_out_of_opening (c : Connection) : c.isOut w' = c.isOut w :=
  is_out_of_bearing (fun i => congrArg ProxyState.bearing (opening.proxies i)) c

theorem returns_of_opening (k : RawConnection) : w'.returns k = w.returns k := by
  have grew : Grew (fun call => call.opens = true) w w' := opening.grew
  exact count_opening k true grew

theorem plain_of_opening (plain : p.Plain w) : p.Plain w' :=
  (congrArg (fun t => (ProxyState.bearing t).2) (opening.proxies p.index)).trans plain

theorem lent_of_opening (accounts : Accounts seen w) (member : c ∈ seen) :
    ∃ p, c = .pooled p ∧ p.index < w'.handles ∧ p.Plain w' ∧ p.raw.index < w'.opened ∧
      (w'.connections.get p.raw.index).openFault = none := by
  obtain ⟨p, rfl, index, plain, raw, fault⟩ := accounts.lent c member
  exact ⟨p, rfl, Nat.lt_of_lt_of_le index opening.handles, plain_of_opening opening plain,
    Nat.lt_of_lt_of_le raw opening.opened,
    (congrArg RawConnectionState.openFault (opening.connections p.raw.index)).trans fault⟩

theorem unused_of_opening (accounts : Accounts seen w) {i : Nat} (high : w'.handles ≤ i) :
    (w'.proxies.get i).bearing = (default : ProxyState).bearing :=
  (congrArg ProxyState.bearing (opening.proxies i)).trans (accounts.unused i (Nat.le_trans opening.handles high))

theorem returned_of_opening (accounts : Accounts seen w) (member : .pooled p ∈ seen) :
    w'.returns p.raw = if (Connection.pooled p).isOut w' then 0 else 1 := by
  rw [returns_of_opening opening, is_out_of_opening opening]
  exact accounts.returned p member

theorem unclosed_of_opening (accounts : Accounts seen w) : w'.closings = 0 := by
  have grew : Grew (fun call => call.opens = true) w w' := opening.grew
  exact (closings_of_opening grew).trans accounts.unclosed

end

structure Fresh (seen : List Connection) (p : Proxy) (w w' : World) : Prop where
  low : w.handles ≤ p.index
  high : p.index < w'.handles
  raw : p.raw.index = w.opened
  unseen : .pooled p ∉ seen

theorem fresh_of_binds (accounts : Accounts seen w) (lends : s.source = .pool) (binds : Binds s c w w') :
    ∃ p, c = .pooled p ∧ Fresh seen p w w' := by
  have kind := binds.rest.kind
  rw [lends] at kind
  cases c with
  | direct k => cases kind
  | pooled p =>
      obtain ⟨low, high⟩ := binds.rest.proxy p rfl
      refine ⟨p, rfl, low, high, congrArg RawConnection.index binds.rest.raw, fun member => ?_⟩
      have old := (older_of_seen accounts member).1
      have new : w.handles ≤ p.index := low
      omega

theorem seen_or_last {q : Proxy} (member : .pooled q ∈ seen ++ [.pooled p]) : .pooled q ∈ seen ∨ q = p := by
  rcases List.mem_append.mp member with old | last
  · exact Or.inl old
  · exact Or.inr (Connection.pooled.inj (List.mem_singleton.mp last))

theorem apart_of_fresh (accounts : Accounts seen w) (fresh : Fresh seen p w w') {q : Proxy}
    (member : .pooled q ∈ seen) : ¬ (q.index = p.index ∨ q.raw = p.raw) := by
  obtain ⟨index, raw⟩ := older_of_seen accounts member
  have low := fresh.low
  rintro (same | same)
  · omega
  · rw [same, fresh.raw] at raw
    omega

theorem apart_with_fresh (accounts : Accounts seen w) (fresh : Fresh seen p w w') {q q' : Proxy}
    (member : .pooled q ∈ seen ++ [.pooled p]) (member' : .pooled q' ∈ seen ++ [.pooled p])
    (same : q.index = q'.index ∨ q.raw = q'.raw) : q = q' := by
  rcases seen_or_last member with old | rfl
  · rcases seen_or_last member' with old' | rfl
    · exact accounts.apart q q' old old' same
    · exact absurd same (apart_of_fresh accounts fresh old)
  · rcases seen_or_last member' with old' | rfl
    · exact absurd (same.imp Eq.symm Eq.symm) (apart_of_fresh accounts fresh old')
    · rfl

theorem returned_of_fresh (accounts : Accounts seen w) (fresh : Fresh seen p w w')
    (opening : Opening w { w' with sessions := w.sessions }) :
    w'.returns p.raw = if (Connection.pooled p).isOut w' then 0 else 1 := by
  have clean : (w.proxies.get p.index).released = .bool false :=
    congrArg Prod.fst (accounts.unused p.index fresh.low)
  have untaken := accounts.untaken p.raw fun q old same => apart_of_fresh accounts fresh old (Or.inr same)
  rw [returns_of_opening opening, is_out_of_opening opening, untaken, is_out_pooled, clean]
  rfl

theorem binding_of_binds (binds : Binds s c w w') {i : Nat} {d : Connection}
    (bound : (w'.sessions.get i).binding = some d) :
    (i = s.index ∧ d = c) ∨ (i ≠ s.index ∧ (w.sessions.get i).binding = some d) := by
  rw [binds.sessions] at bound
  by_cases same : i = s.index
  · rw [if_pos same] at bound
    exact Or.inl ⟨same, (Option.some.inj bound).symm⟩
  · rw [if_neg same] at bound
    exact Or.inr ⟨same, bound⟩

theorem accounts_binds (accounts : Accounts seen w) (fresh : Fresh seen p w w') (binds : Binds s (.pooled p) w w') :
    Accounts (seen ++ [.pooled p]) w' where
  lent d member := by
    rcases List.mem_append.mp member with old | last
    · exact lent_of_opening binds.rest.toOpening accounts old
    · cases List.mem_singleton.mp last
      have plain : p.Plain w := congrArg Prod.snd (accounts.unused p.index fresh.low)
      have next : w'.opened = w.opened + 1 := binds.rest.next
      have intact := (congrArg RawConnectionState.openFault (binds.rest.connections w.opened)).trans binds.rest.intact
      rw [← fresh.raw] at intact
      exact ⟨p, rfl, fresh.high, plain_of_opening binds.rest.toOpening plain, by rw [fresh.raw]; omega, intact⟩
  apart _ _ member member' same := apart_with_fresh accounts fresh member member' same
  whole k below fault := by
    have next : w'.opened = w.opened + 1 := binds.rest.next
    by_cases last : k.index = w.opened
    · exact ⟨p, List.mem_append_right seen List.mem_cons_self,
        congrArg RawConnection.mk (fresh.raw.trans last.symm)⟩
    · have before := (congrArg RawConnectionState.openFault (binds.rest.connections k.index)).symm.trans fault
      obtain ⟨q, member, raw⟩ := accounts.whole k (by omega) before
      exact ⟨q, List.mem_append_left _ member, raw⟩
  bound d := by
    rintro ⟨i, bound⟩
    rcases binding_of_binds binds bound with ⟨_, rfl⟩ | ⟨_, before⟩
    · exact List.mem_append_right seen List.mem_cons_self
    · exact List.mem_append_left _ (accounts.bound d ⟨i, before⟩)
  alone i j d first second := by
    rcases binding_of_binds binds first with ⟨here, rfl⟩ | ⟨_, before⟩
    · rcases binding_of_binds binds second with ⟨there, _⟩ | ⟨_, before⟩
      · exact here.trans there.symm
      · exact absurd (accounts.bound _ ⟨j, before⟩) fresh.unseen
    · rcases binding_of_binds binds second with ⟨_, rfl⟩ | ⟨_, before'⟩
      · exact absurd (accounts.bound _ ⟨i, before⟩) fresh.unseen
      · exact accounts.alone i j d before before'
  unused _ high := unused_of_opening binds.rest.toOpening accounts high
  returned q member := by
    rcases seen_or_last member with old | rfl
    · exact returned_of_opening binds.rest.toOpening accounts old
    · exact returned_of_fresh accounts fresh binds.rest.toOpening
  untaken k apart :=
    (returns_of_opening binds.rest.toOpening k).trans
      (accounts.untaken k fun q old => apart q (List.mem_append_left _ old))
  unclosed := unclosed_of_opening binds.rest.toOpening accounts

theorem mem_shed {d : Connection} : d ∈ (s.binding w).toList.filter (·.isOut w) ↔
    s.binding w = some d ∧ d.isOut w = true := by
  rw [List.mem_filter, Option.mem_toList]

theorem lends_of_binds (accounts : Accounts seen w) (lends : s.source = .pool) (binds : Binds s c w w') :
    Lends frees seen [c] ((s.binding w).toList.filter (·.isOut w)) w w' := by
  obtain ⟨p, rfl, fresh⟩ := fresh_of_binds accounts lends binds
  have out : ∀ d : Connection, d.isOut w' = d.isOut w := is_out_of_opening binds.rest.toOpening
  refine ⟨accounts_binds accounts fresh binds, fun i => ?_, fun d shed => ?_, fun d member astray => ?_,
    fun _ d member astray => ?_, fun _ d shed => ?_⟩
  · exact congrArg RawConnectionState.openFault (binds.rest.connections i)
  · exact List.mem_append_left _ (accounts.bound d ⟨s.index, (mem_shed.mp shed).1⟩)
  · obtain ⟨waits, unbound⟩ := astray
    rcases List.mem_append.mp member with old | last
    · rw [out] at waits
      by_cases here : s.binding w = some d
      · exact Or.inl (mem_shed.mpr ⟨here, waits⟩)
      · refine Or.inr ⟨old, waits, ?_⟩
        rintro ⟨i, bound⟩
        have elsewhere : i ≠ s.index := by
          rintro rfl
          exact here bound
        exact unbound ⟨i, by rw [binds.sessions, if_neg elsewhere]; exact bound⟩
    · cases List.mem_singleton.mp last
      exact absurd ⟨s.index, rebinds_binding binds⟩ unbound
  · refine ⟨(out d).trans astray.1, ?_⟩
    rintro ⟨i, bound⟩
    rcases binding_of_binds binds bound with ⟨_, rfl⟩ | ⟨_, before⟩
    · exact fresh.unseen member
    · exact astray.2 ⟨i, before⟩
  · obtain ⟨here, waits⟩ := mem_shed.mp shed
    refine ⟨(out d).trans waits, ?_⟩
    rintro ⟨i, bound⟩
    rcases binding_of_binds binds bound with ⟨_, rfl⟩ | ⟨elsewhere, before⟩
    · exact fresh.unseen (accounts.bound _ ⟨s.index, here⟩)
    · exact elsewhere (accounts.alone i s.index d before here)

theorem binding_of_drops (drops : Drops s w w') {i : Nat} {d : Connection}
    (bound : (w'.sessions.get i).binding = some d) : (w.sessions.get i).binding = some d := by
  rcases drops.sessions i with same | ⟨_, gone⟩
  · rw [same] at bound
    exact bound
  · rw [gone] at bound
    cases bound

theorem accounts_drops (accounts : Accounts seen w) (drops : Drops s w w') : Accounts seen w' where
  lent _ member := lent_of_opening drops.rest.toOpening accounts member
  apart := accounts.apart
  whole k below fault := by
    have before := (congrArg RawConnectionState.openFault (drops.rest.connections k.index)).symm.trans fault
    by_cases early : k.index < w.opened
    · exact accounts.whole k early before
    · have missed := drops.rest.none k.index (by omega) below
      rw [before] at missed
      cases missed
  bound d := by
    rintro ⟨i, bound⟩
    exact accounts.bound d ⟨i, binding_of_drops drops bound⟩
  alone i j d first second :=
    accounts.alone i j d (binding_of_drops drops first) (binding_of_drops drops second)
  unused _ high := unused_of_opening drops.rest.toOpening accounts high
  returned _ member := returned_of_opening drops.rest.toOpening accounts member
  untaken k apart := (returns_of_opening drops.rest.toOpening k).trans (accounts.untaken k apart)
  unclosed := unclosed_of_opening drops.rest.toOpening accounts

theorem lends_of_drops (accounts : Accounts seen w) (drops : Drops s w w') (unbound : s.binding w' = none) :
    Lends frees seen [] ((s.binding w).toList.filter (·.isOut w)) w w' := by
  have all : seen ++ [] = seen := List.append_nil seen
  have out : ∀ d : Connection, d.isOut w' = d.isOut w := is_out_of_opening drops.rest.toOpening
  refine ⟨by rw [all]; exact accounts_drops accounts drops, fun i => ?_, fun d shed => ?_, fun d member astray => ?_,
    fun _ d member astray => ?_, fun _ d shed => ?_⟩
  · exact congrArg RawConnectionState.openFault (drops.rest.connections i)
  · rw [all]
    exact accounts.bound d ⟨s.index, (mem_shed.mp shed).1⟩
  · obtain ⟨waits, apart⟩ := astray
    rw [all] at member
    rw [out] at waits
    by_cases here : s.binding w = some d
    · exact Or.inl (mem_shed.mpr ⟨here, waits⟩)
    · refine Or.inr ⟨member, waits, ?_⟩
      rintro ⟨i, bound⟩
      rcases drops.sessions i with same | ⟨rfl, _⟩
      · exact apart ⟨i, by rw [same]; exact bound⟩
      · exact here bound
  · refine ⟨(out d).trans astray.1, ?_⟩
    rintro ⟨i, bound⟩
    exact astray.2 ⟨i, binding_of_drops drops bound⟩
  · obtain ⟨here, waits⟩ := mem_shed.mp shed
    refine ⟨(out d).trans waits, ?_⟩
    rintro ⟨i, bound⟩
    have same := accounts.alone i s.index d (binding_of_drops drops bound) here
    subst same
    rw [Session.binding] at unbound
    rw [unbound] at bound
    cases bound

end SqlScope
