import SqlScope.Proofs.Opening

set_option autoImplicit false

namespace SqlScope

open SqlScope.Action

def Call.ends (lent : Bool) (c : RawConnection) : Call → Bool
  | .close d => !lent && d == c
  | .giveBack (.lent d) => lent && d == c
  | _ => false

def Event.calls (p : Call → Bool) : Event → Bool
  | .call made _ => p made
  | _ => false

def World.count (p : Call → Bool) (w : World) : Nat := w.history.countP (Event.calls p)

theorem count_grew {P : Call → Prop} {p : Call → Bool} {w w' : World} (grew : Grew P w w')
    (apart : ∀ call, P call → p call = false) : w'.count p = w.count p := by
  obtain ⟨added, history, meets⟩ := grew
  have none : added.countP (Event.calls p) = 0 := by
    apply List.countP_eq_zero.mpr
    intro e member
    cases e with
    | call made fault => simp [Event.calls, apart made (meets _ member)]
    | _ => simp [Event.calls]
  rw [World.count, World.count, history, List.countP_append, none, Nat.zero_add]

def Connection.Pristine (c : Connection) (w : World) : Prop :=
  ∀ p, c = .pooled p → (w.proxies.get p.index).bearing = (default : ProxyState).bearing

def Call.Closing (lent : Bool) (c : RawConnection) (call : Call) : Prop :=
  call.closes = true ∧ ∀ d, call.raw? = some d → call.ends lent c = true

theorem raw_of_ends {lent : Bool} {c : RawConnection} {call : Call} (ends : call.ends lent c = true) :
    call.raw? = some c := by
  cases call with
  | giveBack held =>
      cases held with
      | lent d => simp_all [Call.ends, Call.raw?]
      | value v => simp [Call.ends] at ends
  | close d => simp_all [Call.ends, Call.raw?]
  | _ => simp [Call.ends] at ends

theorem closes_of_ends {lent : Bool} {c : RawConnection} {call : Call} (ends : call.ends lent c = true) :
    call.closes = true := by
  cases call with
  | giveBack held => rfl
  | close d => rfl
  | _ => simp [Call.ends] at ends

structure Closes (c : Connection) (w w' : World) : Prop where
  sessions : ∀ i, w'.sessions.get i = w.sessions.get i
  opened : w'.opened = w.opened
  handles : w'.handles = w.handles
  standing : ∀ i, i ≠ c.raw.index → (w'.connections.get i).standing = (w.connections.get i).standing
  proxies : ∀ i, (∀ p, c = .pooled p → i ≠ p.index) → w'.proxies.get i = w.proxies.get i
  grew : Grew (Call.Closing c.isLent c.raw) w w'
  ended : c.Pristine w → w'.count (Call.ends c.isLent c.raw) = w.count (Call.ends c.isLent c.raw) + 1

theorem count_ends_event (lent : Bool) (c : RawConnection) (w : World) (made : Call) (fault : Option Fault)
    (ends : made.ends lent c = true) :
    { w with history := .call made fault :: w.history }.count (Call.ends lent c) =
      w.count (Call.ends lent c) + 1 := by
  simp only [World.count, List.countP_cons, Event.calls, ends, if_true]

theorem closes_log {c : Connection} {w w' : World} (closes : Closes c w w') (channel : Channel)
    (severity : Severity) (text : String) :
    Closes c w { w' with history := .log channel severity text :: w'.history } where
  sessions := closes.sessions
  opened := closes.opened
  handles := closes.handles
  standing := closes.standing
  proxies := closes.proxies
  grew := grew_trans closes.grew (grew_by (e := .log channel severity text) rfl trivial)
  ended pristine := by
    rw [← closes.ended pristine]
    simp [World.count, Event.calls]

theorem raw_close_ends (c : RawConnection) (w : World) :
    c.close.Ends w (fun _ w' => Closes (.direct c) w w') (fun _ w' => Closes (.direct c) w w') := by
  let s := w.connections.get c.index
  let w₁ := { w with connections := w.connections.put c.index { s with closeFaults := s.closeFaults.tail } }
  have run : c.close w =
      (attempt (.close c) s.closeFaults.due >>= fun _ => c.update RawConnection.markClosed) w₁ := rfl
  have elsewhere : ∀ i, i ≠ c.index → w₁.connections.get i = w.connections.get i := by
    intro i other
    exact (Table.get_put _ _ _ _).trans (if_neg (Ne.symm other))
  have isEnd : Call.ends false c (.close c) = true := by simp [Call.ends]
  have made : Call.Closing false c (.close c) := ⟨rfl, fun _ _ => isEnd⟩
  unfold Ends
  rw [run]
  cases s.closeFaults.due with
  | some f =>
      exact {
        sessions := fun _ => rfl
        opened := rfl
        handles := rfl
        standing := fun i other => congrArg RawConnectionState.standing (elsewhere i other)
        proxies := fun _ _ => rfl
        grew := grew_by (e := .call (.close c) (some f)) rfl made
        ended := fun _ => count_ends_event false c w₁ (.close c) (some f) isEnd }
  | none =>
      exact {
        sessions := fun _ => rfl
        opened := rfl
        handles := rfl
        standing := fun i other => congrArg RawConnectionState.standing
          (((Table.get_put _ _ _ _).trans (if_neg (Ne.symm other))).trans (elsewhere i other))
        proxies := fun _ _ => rfl
        grew := grew_by (e := .call (.close c) none) rfl made
        ended := fun _ => count_ends_event false c w₁ (.close c) none isEnd }

theorem closes_same {c : Connection} {w : World} (spent : ¬ c.Pristine w) : Closes c w w :=
  ⟨fun _ => rfl, rfl, rfl, fun _ _ => rfl, fun _ _ => rfl, grew_same rfl, fun pristine => absurd pristine spent⟩

def ProxyState.held (s : ProxyState) (p : Proxy) : Held :=
  ((s.attributes.get? "_connection").map Held.value).getD (.lent p.raw)

theorem held_of_pristine {w : World} (p : Proxy) (pristine : (Connection.pooled p).Pristine w) :
    (w.proxies.get p.index).held p = .lent p.raw := by
  have clean : (w.proxies.get p.index).attributes.get? "_connection" = none := congrArg (·.2.1) (pristine p rfl)
  rw [ProxyState.held, clean]
  rfl

theorem proxy_state_ok (p : Proxy) (w : World) : p.state w = .ok (w.proxies.get p.index) w := rfl

theorem proxy_held_ok (p : Proxy) (w : World) : p.held w = .ok ((w.proxies.get p.index).held p) w := rfl

theorem give_back_named {p : Proxy} {w : World} {v : Value}
    (named : (w.proxies.get p.index).attributes.get? "_pool" = some v) :
    p.giveBack w = .error (Failure.lacking v.typeName "putconn") w := by
  rw [Proxy.giveBack, bind_of_ok (proxy_state_ok p w), named]
  rfl

theorem give_back_own {p : Proxy} {w : World} (own : (w.proxies.get p.index).attributes.get? "_pool" = none) :
    p.giveBack w = Pool.giveBack ((w.proxies.get p.index).held p) w := by
  rw [Proxy.giveBack, bind_of_ok (proxy_state_ok p w), own]
  exact bind_of_ok (proxy_held_ok p w)

theorem give_back_closing (p : Proxy) (s : ProxyState) : Call.Closing true p.raw (.giveBack (s.held p)) := by
  refine ⟨rfl, fun d same => ?_⟩
  unfold ProxyState.held at *
  cases named : s.attributes.get? "_connection" with
  | none => simp [Call.ends]
  | some v =>
      rw [named] at same
      cases same

theorem proxy_closes {p : Proxy} {w w' : World} {s : ProxyState} {fault : Option Fault}
    (before : w.proxies.get p.index = s) (sessions : w'.sessions = w.sessions) (opened : w'.opened = w.opened)
    (handles : w'.handles = w.handles) (connections : w'.connections = w.connections)
    (proxies : w'.proxies = w.proxies.put p.index { s with released := .bool true })
    (history : w'.history = .call (.giveBack (s.held p)) fault :: w.history) : Closes (.pooled p) w w' where
  sessions i := by rw [sessions]
  opened := opened
  handles := handles
  standing i _ := by rw [connections]
  proxies i other := by rw [proxies, Table.get_put, if_neg (Ne.symm (other p rfl))]
  grew := grew_by history (give_back_closing p s)
  ended pristine := by
    have lent : s.held p = .lent p.raw := by
      rw [← before]
      exact held_of_pristine p pristine
    have isEnd : Call.ends true p.raw (.giveBack (s.held p)) = true := by
      rw [lent]
      simp [Call.ends]
    simp only [World.count, history, List.countP_cons, Event.calls]
    change _ + (if Call.ends true p.raw (.giveBack (s.held p)) = true then 1 else 0) = _
    rw [isEnd]
    rfl

def Proxy.marked (p : Proxy) (w : World) : World :=
  { w with proxies := w.proxies.put p.index { w.proxies.get p.index with released := .bool true } }

theorem marked_own (p : Proxy) (w : World) :
    (p.marked w).proxies.get p.index = { w.proxies.get p.index with released := .bool true } :=
  (Table.get_put _ _ _ _).trans (if_pos rfl)

theorem proxy_close_of_released {p : Proxy} {w : World} (released : (w.proxies.get p.index).released.isTruthy) :
    p.close w = .ok () w := by
  change (if (w.proxies.get p.index).released.isTruthy then pure () else _ : Action Unit) w = _
  rw [if_pos released]
  rfl

theorem proxy_close_of_unreleased {p : Proxy} {w : World}
    (unreleased : ¬ (w.proxies.get p.index).released.isTruthy) :
    p.close w = (p.giveBack >>= fun _ => debug .connection "Returned connection to pool") (p.marked w) := by
  change (if (w.proxies.get p.index).released.isTruthy then pure () else _ : Action Unit) w = _
  rw [if_neg unreleased]
  rfl

theorem spent_of_released {p : Proxy} {w : World} (released : (w.proxies.get p.index).released.isTruthy) :
    ¬ (Connection.pooled p).Pristine w := by
  intro pristine
  have clean : (w.proxies.get p.index).released = .bool false := congrArg Prod.fst (pristine p rfl)
  rw [clean] at released
  cases released

-- A value in the place of the pool takes nothing back; only a client can have put it there.
theorem marked_closes {p : Proxy} {w : World} {v : Value}
    (named : (w.proxies.get p.index).attributes.get? "_pool" = some v) : Closes (.pooled p) w (p.marked w) where
  sessions _ := rfl
  opened := rfl
  handles := rfl
  standing _ _ := rfl
  proxies i other := (Table.get_put _ _ _ _).trans (if_neg (Ne.symm (other p rfl)))
  grew := grew_same rfl
  ended pristine := by
    have clean : (w.proxies.get p.index).attributes.get? "_pool" = none := congrArg (·.2.2) (pristine p rfl)
    rw [clean] at named
    cases named

theorem give_back_marked {p : Proxy} {w : World} (own : (w.proxies.get p.index).attributes.get? "_pool" = none) :
    p.giveBack (p.marked w) = attempt (.giveBack ((w.proxies.get p.index).held p)) w.pool.giveBackFaults.due
      { p.marked w with pool := { w.pool with giveBackFaults := w.pool.giveBackFaults.tail } } := by
  have asked : ((p.marked w).proxies.get p.index).attributes.get? "_pool" = none := by
    rw [marked_own]
    exact own
  rw [give_back_own asked, marked_own]
  rfl

theorem proxy_close_ends (p : Proxy) (w : World) :
    p.close.Ends w (fun _ w' => Closes (.pooled p) w w') (fun _ w' => Closes (.pooled p) w w') := by
  unfold Ends
  by_cases released : (w.proxies.get p.index).released.isTruthy
  · rw [proxy_close_of_released released]
    exact closes_same (spent_of_released released)
  · rw [proxy_close_of_unreleased released]
    cases named : (w.proxies.get p.index).attributes.get? "_pool" with
    | some v =>
        have asked : ((p.marked w).proxies.get p.index).attributes.get? "_pool" = some v := by
          rw [marked_own]
          exact named
        rw [bind_of_error (give_back_named asked)]
        exact marked_closes named
    | none =>
        have given := give_back_marked named
        cases due : w.pool.giveBackFaults.due with
        | some f =>
            rw [due] at given
            rw [bind_of_error (given.trans rfl)]
            exact proxy_closes rfl rfl rfl rfl rfl rfl rfl
        | none =>
            rw [due] at given
            rw [bind_of_ok (given.trans rfl)]
            let w₂ := { p.marked w with pool := { w.pool with giveBackFaults := w.pool.giveBackFaults.tail } }
            have closes : Closes (.pooled p) w
                { w₂ with history := .call (.giveBack ((w.proxies.get p.index).held p)) none :: w.history } :=
              proxy_closes rfl rfl rfl rfl rfl rfl rfl
            exact closes_log closes _ _ _

theorem close_ends (c : Connection) (w : World) :
    c.close.Ends w (fun _ w' => Closes c w w') (fun _ w' => Closes c w w') := by
  cases c with
  | direct c => exact raw_close_ends c w
  | pooled p => exact proxy_close_ends p w

end SqlScope
