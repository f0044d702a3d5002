import SqlScope.Proofs.Work

set_option autoImplicit false

namespace SqlScope

open SqlScope.Action

variable {α : Type}

def Connection.isLent : Connection → Bool
  | .direct _ => false
  | .pooled _ => true

def Source.lends : Source → Bool
  | .pool => true
  | _ => false

structure Opening (w w' : World) : Prop where
  sessions : ∀ i, w'.sessions.get i = w.sessions.get i
  proxies : ∀ i, w'.proxies.get i = w.proxies.get i
  connections : ∀ i, w'.connections.get i = w.connections.get i
  handles : w.handles ≤ w'.handles
  opened : w.opened ≤ w'.opened
  grew : Grew (fun call => call.opens = true) w w'

theorem opening_refl (w : World) : Opening w w :=
  ⟨fun _ => rfl, fun _ => rfl, fun _ => rfl, Nat.le_refl _, Nat.le_refl _, grew_same rfl⟩

theorem opening_trans (u v w : World) (first : Opening u v) (second : Opening v w) :
    Opening u w where
  sessions i := (second.sessions i).trans (first.sessions i)
  proxies i := (second.proxies i).trans (first.proxies i)
  connections i := (second.connections i).trans (first.connections i)
  handles := Nat.le_trans first.handles second.handles
  opened := Nat.le_trans first.opened second.opened
  grew := grew_trans first.grew second.grew

-- A source that fails may have opened a connection only in the sense that the opening failed.
structure Misses (w w' : World) : Prop extends Opening w w' where
  none : ∀ k, w.opened ≤ k → k < w'.opened → (w.connections.get k).openFault.isSome

structure Opens (source : Source) (c : Connection) (w w' : World) : Prop extends Opening w w' where
  next : w'.opened = w.opened + 1
  raw : c.raw = ⟨w.opened⟩
  intact : (w.connections.get w.opened).openFault = none
  proxy : ∀ p, c = .pooled p → w.handles ≤ p.index ∧ p.index < w'.handles
  kind : c.isLent = source.lends

theorem misses_of_same {w w' : World} (opening : Opening w w') (same : w'.opened = w.opened) :
    Misses w w' :=
  ⟨opening, fun k low high => by omega⟩

theorem opens_after_quiet {source : Source} {c : Connection} {u v w : World} (quiet : Opening u v)
    (same : v.opened = u.opened) (opens : Opens source c v w) : Opens source c u w where
  toOpening := opening_trans u v w quiet opens.toOpening
  next := opens.next.trans (congrArg (· + 1) same)
  raw := opens.raw.trans (congrArg RawConnection.mk same)
  intact := by
    have intact := opens.intact
    rw [same, quiet.connections] at intact
    exact intact
  proxy p isPooled := by
    obtain ⟨low, high⟩ := opens.proxy p isPooled
    exact ⟨Nat.le_trans quiet.handles low, high⟩
  kind := opens.kind

theorem misses_after_quiet {u v w : World} (quiet : Opening u v) (same : v.opened = u.opened)
    (missed : Misses v w) : Misses u w where
  toOpening := opening_trans u v w quiet missed.toOpening
  none k low high := by
    rw [← quiet.connections]
    exact missed.none k (Nat.le_trans (Nat.le_of_eq same) low) high

theorem open_next_ends {call : Call} (opens : call.opens = true) (w : World) :
    (openNext call).Ends w
      (fun c w' => c = ⟨w.opened⟩ ∧ (w.connections.get w.opened).openFault = none ∧ Opening w w' ∧
        w'.opened = w.opened + 1)
      (fun _ w' => Misses w w') := by
  have run : openNext call w =
      (attempt call (w.connections.get w.opened).openFault >>= fun _ => pure ⟨w.opened⟩)
        { w with opened := w.opened + 1 } := rfl
  unfold Ends
  rw [run]
  cases due : (w.connections.get w.opened).openFault with
  | none =>
      refine ⟨rfl, rfl, ?_, rfl⟩
      exact ⟨fun _ => rfl, fun _ => rfl, fun _ => rfl, Nat.le_refl _, Nat.le_succ _,
        grew_by (e := .call call none) rfl opens⟩
  | some f =>
      refine ⟨⟨fun _ => rfl, fun _ => rfl, fun _ => rfl, Nat.le_refl _, Nat.le_succ _,
        grew_by (e := .call call (some f)) rfl opens⟩, fun k low high => ?_⟩
      have last : k = w.opened := by
        have bound : k < w.opened + 1 := high
        omega
      rw [last, due]
      rfl

theorem debug_opening (channel : Channel) (text : String) (w : World) :
    Opening w ((debug channel text).after w) :=
  ⟨fun _ => rfl, fun _ => rfl, fun _ => rfl, Nat.le_refl _, Nat.le_refl _,
    grew_by (e := .log channel .debug text) rfl trivial⟩

theorem create_plain_ends (w : World) :
    Source.plain.create.Ends w (fun c w' => Opens .plain c w w') (fun _ w' => Misses w w') := by
  refine ends_bind (ends_mono (open_next_ends rfl w) ?_ fun _ _ missed => missed)
  rintro c w' ⟨rfl, intact, opening, next⟩
  exact ends_pure ⟨opening, next, rfl, intact, fun p isPooled => Connection.noConfusion isPooled, rfl⟩

theorem get_ok (w : World) : (get : Action World) w = .ok w w := rfl

theorem pool_update_ok (f : PoolState → PoolState) (w : World) :
    Pool.update f w = .ok () { w with pool := f w.pool } := rfl

theorem borrow_undisturbed {w : World} (due : w.pool.borrowFaults.due = none) :
    Pool.borrow w = openNext .borrow
      { w with pool := { w.pool with borrowFaults := w.pool.borrowFaults.tail } } := by
  rw [Pool.borrow, bind_of_ok (get_ok w), bind_of_ok (pool_update_ok _ w), due]

theorem borrow_refused {w : World} {f : Fault} (due : w.pool.borrowFaults.due = some f) :
    Pool.borrow w = refuse .borrow f
      { w with pool := { w.pool with borrowFaults := w.pool.borrowFaults.tail } } := by
  rw [Pool.borrow, bind_of_ok (get_ok w), bind_of_ok (pool_update_ok _ w), due]

theorem borrow_ends (w : World) :
    Pool.borrow.Ends w
      (fun c w' => c = ⟨w.opened⟩ ∧ (w.connections.get w.opened).openFault = none ∧ Opening w w' ∧
        w'.opened = w.opened + 1)
      (fun _ w' => Misses w w') := by
  let w₁ := { w with pool := { w.pool with borrowFaults := w.pool.borrowFaults.tail } }
  have quiet : Opening w w₁ :=
    ⟨fun _ => rfl, fun _ => rfl, fun _ => rfl, Nat.le_refl _, Nat.le_refl _, grew_same rfl⟩
  unfold Ends
  cases due : w.pool.borrowFaults.due with
  | none =>
      rw [borrow_undisturbed due]
      refine ends_mono (open_next_ends rfl w₁) ?_ ?_
      · rintro c w' ⟨rfl, intact, opening, next⟩
        exact ⟨rfl, intact, opening_trans _ _ _ quiet opening, next⟩
      · intro f w' missed
        exact ⟨opening_trans _ _ _ quiet missed.toOpening, missed.none⟩
  | some f =>
      rw [borrow_refused due]
      exact misses_of_same ⟨fun _ => rfl, fun _ => rfl, fun _ => rfl, Nat.le_refl _, Nat.le_refl _,
        grew_by (e := .call .borrow (some f)) rfl rfl⟩ rfl

theorem create_pool_ends (w : World) :
    Source.pool.create.Ends w (fun c w' => Opens .pool c w w') (fun _ w' => Misses w w') := by
  refine ends_bind (ends_rethrow (ends_mono (borrow_ends w) ?_ fun _ _ missed => missed))
  rintro c w₁ ⟨rfl, intact, opening, next⟩
  have logged := opening_trans _ _ _ opening (debug_opening .connection "Took connection from pool" w₁)
  refine ⟨⟨logged.sessions, logged.proxies, logged.connections, ?_, logged.opened, logged.grew⟩, next,
    rfl, intact, ?_, rfl⟩
  · exact Nat.le_succ_of_le logged.handles
  · rintro p ⟨rfl⟩
    exact ⟨logged.handles, Nat.lt_succ_self _⟩

theorem create_settings_ends (s : Settings) (w : World) :
    (Source.settings s).create.Ends w (fun c w' => Opens (.settings s) c w w')
      (fun _ w' => Misses w w') := by
  change (Source.connect s).Ends w _ _
  unfold Source.connect
  by_cases given : s.url.isTruthy
  · rw [if_pos given]
    cases s.options with
    | error f => exact misses_of_same (opening_refl w) rfl
    | ok options =>
        refine ends_bind (ends_pure (ends_bind (ends_rethrow (ends_bind ?_))))
        cases s.arguments options with
        | error f => exact misses_of_same (opening_refl w) rfl
        | ok arguments =>
            refine ends_pure (ends_mono (open_next_ends rfl w) ?_ fun _ _ missed => missed)
            rintro c w₁ ⟨rfl, intact, opening, next⟩
            have logged := opening_trans _ _ _ opening
              (debug_opening .connection ("Opened connection to " ++ s.url.plain) w₁)
            exact ⟨logged, next, rfl, intact, fun p isPooled => Connection.noConfusion isPooled, rfl⟩
  · rw [if_neg given]
    exact misses_of_same (opening_refl w) rfl

theorem create_ends (source : Source) (w : World) :
    source.create.Ends w (fun c w' => Opens source c w w') (fun _ w' => Misses w w') := by
  cases source with
  | plain => exact create_plain_ends w
  | pool => exact create_pool_ends w
  | settings s => exact create_settings_ends s w

end SqlScope
