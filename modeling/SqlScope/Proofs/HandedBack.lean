import SqlScope.Proofs.BatchQueue
import SqlScope.Proofs.Delivery
import SqlScope.Proofs.Transparency

set_option autoImplicit false

namespace SqlScope

open SqlScope.Action

variable {p : Proxy} {u v w w' : World}

def closingCalls (w w' : World) : Calls := (callsSince w w').filter fun made => made.1.closes

-- How the attribute `closed` is taken: as a truth value, and as false if it is missing. Its other failures get out.
def RawConnection.tellsClosed (c : RawConnection) (w : World) : EStateM.Result Failure World Value :=
  match (w.connections.get c.index).attributes.get? "closed" with
  | none => .ok (.bool false) w
  | some (.gives v) => .ok (.bool v.isTruthy) w
  | some (.raises f) => if f.kind = .attribute then .ok (.bool false) w else .error f.raised w

namespace Proxy

inductive Use where
  | close
  | read (name : String) (foreign : isOwn name = false)
  | assign (name : String) (value : Value) (reading : Reading Value) (foreign : isOwn name = false)
  | openCursor
  | commit
  | rollback

def Use.after (p : Proxy) (w : World) : Use → World
  | close => p.close.after w
  | read name _ => (p.read name).after w
  | assign name value reading _ => (p.assign name value reading).after w
  | openCursor => (Connection.pooled p).openCursor.after w
  | commit => (Connection.pooled p).commit.after w
  | rollback => (Connection.pooled p).rollback.after w

def afterAll (p : Proxy) (uses : List Use) (w : World) : World := uses.foldl (Use.after p) w

def handing (p : Proxy) (w : World) : Call × Option Fault :=
  (.giveBack (.lent p.raw), w.pool.giveBackFaults.due)

end Proxy

structure Unclosing (w w' : World) : Prop where
  proxies : w'.proxies = w.proxies
  pool : w'.pool = w.pool
  grew : Grew (fun call => call.closes = false) w w'

theorem unclosing_refl (w : World) : Unclosing w w := ⟨rfl, rfl, grew_same rfl⟩

theorem unclosing_trans (u v w : World) (first : Unclosing u v) (second : Unclosing v w) : Unclosing u w :=
  ⟨second.proxies.trans first.proxies, second.pool.trans first.pool, grew_trans first.grew second.grew⟩

def unclosing : Law := ⟨fun _ => True, Unclosing, unclosing_refl, unclosing_trans⟩

theorem attempt_unclosing {call : Call} (apart : call.closes = false) (due : Option Fault) :
    unclosing.Kept (attempt call due) := by
  have noted : ∀ fault, unclosing.Kept (note (.call call fault)) := fun fault =>
    kept_modify fun w _ => ⟨trivial, rfl, rfl, grew_by (e := .call call fault) rfl apart⟩
  cases due with
  | none => exact noted none
  | some f => exact kept_bind (noted (some f)) fun _ => kept_throw f.raised

namespace RawConnection

theorem update_unclosing (c : RawConnection) (f : RawConnectionState → RawConnectionState) :
    unclosing.Kept (c.update f) :=
  kept_modify fun _ _ => ⟨trivial, rfl, rfl, grew_same rfl⟩

theorem open_cursor_unclosing (c : RawConnection) : unclosing.Kept c.openCursor := by
  refine kept_bind c.state_kept fun s => kept_bind (c.update_unclosing _) fun _ => ?_
  refine kept_bind (attempt_unclosing rfl _) fun _ => ?_
  exact kept_bind (c.update_unclosing _) fun _ => kept_pure _

theorem commit_unclosing (c : RawConnection) : unclosing.Kept c.commit :=
  kept_bind c.state_kept fun _ => kept_bind (c.update_unclosing _) fun _ => attempt_unclosing rfl _

theorem rollback_unclosing (c : RawConnection) : unclosing.Kept c.rollback :=
  kept_bind c.state_kept fun _ => kept_bind (c.update_unclosing _) fun _ => attempt_unclosing rfl _

theorem assign_unclosing (c : RawConnection) (name : String) (value : Value) (reading : Reading Value) :
    unclosing.Kept (c.assign name value reading) := by
  refine kept_bind c.state_kept fun s => kept_bind (c.update_unclosing _) fun _ => ?_
  exact kept_bind (attempt_unclosing rfl _) fun _ => c.update_unclosing _

end RawConnection

namespace Proxy

theorem assign_foreign (p : Proxy) {name : String} (foreign : isOwn name = false) (value : Value)
    (reading : Reading Value) : p.assign name value reading = p.held >>= fun h => h.assign name value reading := by
  have unmarked : name ≠ "_released" := by
    rintro rfl
    exact absurd foreign (by decide)
  rw [assign, if_neg unmarked, if_neg (by simp [foreign])]

theorem use_unclosing (p : Proxy) (x : Use) (w : World)
    (harmless : x ≠ .close ∨ (w.proxies.get p.index).released.isTruthy) : Unclosing w (x.after p w) := by
  cases x with
  | close =>
      have released := harmless.resolve_left fun other => other rfl
      rw [Use.after, after_of_ok (proxy_close_of_released released)]
      exact unclosing_refl w
  | read name foreign => exact (p.read_kept (l := unclosing) name w trivial).2
  | assign name value reading foreign =>
      have kept : unclosing.Kept (p.assign name value reading) := by
        rw [p.assign_foreign foreign]
        exact kept_bind p.held_kept fun h => kept_bind (h.callee_kept name) fun c => c.assign_unclosing name value reading
      exact (kept w trivial).2
  | openCursor =>
      exact ((Connection.pooled p).callee_kept "cursor" RawConnection.open_cursor_unclosing w trivial).2
  | commit => exact ((Connection.pooled p).callee_kept "commit" RawConnection.commit_unclosing w trivial).2
  | rollback => exact ((Connection.pooled p).callee_kept "rollback" RawConnection.rollback_unclosing w trivial).2

theorem uses_unclosing (p : Proxy) (uses : List Use) (w : World)
    (harmless : .close ∉ uses ∨ (w.proxies.get p.index).released.isTruthy) : Unclosing w (p.afterAll uses w) := by
  induction uses generalizing w with
  | nil => exact unclosing_refl w
  | cons x rest ih =>
      have first : Unclosing w (x.after p w) :=
        p.use_unclosing x w (harmless.imp_left fun unclosed same => unclosed (same ▸ List.mem_cons_self))
      have later : Unclosing (x.after p w) (p.afterAll rest (x.after p w)) := by
        refine ih (x.after p w) (harmless.imp (fun unclosed member => unclosed (List.mem_cons_of_mem x member)) ?_)
        intro released
        rw [first.proxies]
        exact released
      exact unclosing_trans _ _ _ first later

structure HandsBack (p : Proxy) (w w' : World) : Prop where
  calls : Adds [p.handing w] w w'
  released : (w'.proxies.get p.index).released = .bool true

theorem first_close (new : w.proxies.get p.index = default) :
    p.close.Ends w (fun _ w' => w.pool.giveBackFaults.due = none ∧ p.HandsBack w w')
      (fun e w' => (∃ f, w.pool.giveBackFaults.due = some f ∧ e = f.raised) ∧ p.HandsBack w w') := by
  have unreleased : ¬ (w.proxies.get p.index).released.isTruthy := by
    rw [new]
    decide
  have lent : (w.proxies.get p.index).held p = .lent p.raw := by
    rw [new]
    rfl
  -- The pool is asked in a world where the mark is set already, so that both ends show it.
  have marked : ((p.marked w).proxies.get p.index).released = .bool true := by rw [marked_own]
  have given := give_back_marked (p := p) (w := w) (by rw [new]; rfl)
  rw [lent] at given
  rw [Ends, proxy_close_of_unreleased unreleased]
  cases due : w.pool.giveBackFaults.due with
  | none =>
      rw [due] at given
      rw [bind_of_ok (given.trans rfl)]
      refine ⟨rfl, ?_, marked⟩
      rw [handing, due]
      exact adds_trans (adds_call rfl) (adds_log rfl)
  | some f =>
      rw [due] at given
      rw [bind_of_error (given.trans rfl)]
      refine ⟨⟨f, rfl, rfl⟩, ?_, marked⟩
      rw [handing, due]
      exact adds_call rfl

theorem closed_of_new (new : w.proxies.get p.index = default) : p.read "closed" w = p.raw.tellsClosed w := by
  have inPlace : p.InPlace w := ⟨by rw [new]; rfl, by rw [new]; rfl, fun _ _ => by rw [new]; rfl⟩
  have closed : p.read "closed" w =
      ((fun v : Value => .bool v.isTruthy) <$> orMissing (p.raw.read "closed") (.bool false)) w := closed_in_place inPlace
  rw [closed, RawConnection.tellsClosed]
  cases named : (w.connections.get p.raw.index).attributes.get? "closed" with
  | none => exact map_of_ok (or_missing_of_error (raw_read_of_missing named) rfl _)
  | some r =>
      have read := raw_read_of_named named
      cases r with
      | gives v => exact map_of_ok (or_missing_of_ok read _)
      | raises f =>
          dsimp only
          by_cases missing : f.kind = .attribute
          · rw [if_pos missing]
            exact map_of_ok (or_missing_of_error read missing _)
          · rw [if_neg missing]
            exact map_of_error (or_missing_of_other read missing _)

theorem closed_of_released (released : (w.proxies.get p.index).released = .bool true) :
    p.read "closed" w = .ok (.bool true) w := by
  change (if (w.proxies.get p.index).released.isTruthy then pure (w.proxies.get p.index).released else _ : Action Value) w = _
  rw [released]
  rfl

end Proxy

theorem closing_calls_of_adds {calls : Calls} (adds : Adds calls w w') :
    closingCalls w w' = calls.filter fun made => made.1.closes := by
  rw [closingCalls, calls_since adds]

theorem unclosing_adds (kept : Unclosing w w') :
    ∃ calls, Adds calls w w' ∧ calls.filter (fun made => made.1.closes) = [] := by
  obtain ⟨calls, adds, apart⟩ := adds_of_grew kept.grew
  refine ⟨calls, adds, List.filter_eq_nil_iff.mpr fun made member closes => ?_⟩
  rw [apart made member] at closes
  cases closes

theorem closing_calls_of_unclosing (kept : Unclosing w w') : closingCalls w w' = [] := by
  obtain ⟨calls, adds, none⟩ := unclosing_adds kept
  rw [closing_calls_of_adds adds, none]

namespace Proxy

theorem handing_of_unclosing (p : Proxy) (kept : Unclosing w w') : p.handing w' = p.handing w := by
  rw [handing, handing, kept.pool]

theorem new_of_unclosing (kept : Unclosing w w') (new : w.proxies.get p.index = default) :
    w'.proxies.get p.index = default := by
  rw [kept.proxies]
  exact new

theorem first_close_hands_back (new : w.proxies.get p.index = default) : p.HandsBack w (p.close.after w) :=
  ends_after (ends_mono (first_close new) (fun _ _ ends => ends.2) fun _ _ ends => ends.2)

theorem hands_back_within (new : w.proxies.get p.index = default) {uses : List Use} (closed : .close ∈ uses) :
    closingCalls w (p.afterAll uses w) = [p.handing w] ∧
      ((p.afterAll uses w).proxies.get p.index).released = .bool true := by
  obtain ⟨before, later, rfl, unclosed⟩ := List.eq_append_cons_of_mem closed
  have split : p.afterAll (before ++ .close :: later) w = p.afterAll later (p.close.after (p.afterAll before w)) := by
    rw [afterAll, List.foldl_append]
    rfl
  have early := p.uses_unclosing before w (Or.inl unclosed)
  have handed := first_close_hands_back (new_of_unclosing early new)
  have late := p.uses_unclosing later _ (Or.inr (by rw [handed.released]; rfl))
  obtain ⟨first, addsFirst, noneFirst⟩ := unclosing_adds early
  obtain ⟨last, addsLast, noneLast⟩ := unclosing_adds late
  have adds := adds_trans addsFirst (adds_trans handed.calls addsLast)
  rw [split]
  refine ⟨?_, ?_⟩
  · rw [closing_calls_of_adds adds, List.filter_append, List.filter_append, noneFirst, noneLast,
      p.handing_of_unclosing early]
    rfl
  · rw [late.proxies]
    exact handed.released

end Proxy

theorem created_proxy_new (unused : ∀ i, w.handles ≤ i → w.proxies.get i = default)
    (created : Source.pool.create w = .ok (.pooled p) w') : w'.proxies.get p.index = default := by
  have opens := ends_ok (create_pool_ends w) created
  rw [opens.proxies]
  exact unused p.index (opens.proxy p rfl).1

-- Nothing is closed or handed back before the first close, which hands the raw connection back, once, even if the pool
-- refuses it; whatever is done later closes nothing, further closes do nothing, and the proxy says that it is closed.
-- Until then it says so if the raw connection does.
theorem proxy_hands_back_once (new : w.proxies.get p.index = default) (uses : List Proxy.Use) :
    let v := p.afterAll uses w
    (.close ∉ uses → closingCalls w v = [] ∧ p.read "closed" v = p.raw.tellsClosed v ∧
      callsSince v (p.close.after v) = [p.handing w] ∧
      p.close.Ends v (fun _ _ => (p.handing w).2 = none) fun e _ => ∃ f, (p.handing w).2 = some f ∧ e = f.raised) ∧
    (.close ∈ uses → closingCalls w v = [p.handing w] ∧ p.read "closed" v = .ok (.bool true) v ∧
      p.close v = .ok () v) := by
  intro v
  refine ⟨fun unclosed => ?_, fun closed => ?_⟩
  · have kept : Unclosing w v := p.uses_unclosing uses w (Or.inl unclosed)
    have new' := Proxy.new_of_unclosing kept new
    have same := p.handing_of_unclosing kept
    have ends := Proxy.first_close new'
    refine ⟨closing_calls_of_unclosing kept, Proxy.closed_of_new new', ?_, ?_⟩
    · rw [← same]
      exact calls_since (Proxy.first_close_hands_back new').calls
    · rw [← same]
      exact ends_mono ends (fun _ _ ended => ended.1) fun _ _ ended => ended.1
  · obtain ⟨calls, released⟩ := Proxy.hands_back_within new closed
    refine ⟨calls, Proxy.closed_of_released released, proxy_close_of_released ?_⟩
    rw [released]
    rfl

-- The pool refuses the connection, whose own attribute raises first and then says that it is open.
theorem refused_connection_handed_back_once :
    let gone := Kind.driver.fault "gone"
    let full := Kind.runtime.fault "full"
    let raw := { (default : RawConnectionState) with attributes := [("closed", .raises gone)] }
    let start := World.start [raw] { (default : PoolState) with giveBackFaults := [some full] } 0
    let before : List Proxy.Use := [.read "closed" rfl, .commit]
    let uses := before ++ [.close, .assign "closed" (.bool false) (.gives (.bool false)) rfl, .close]
    ∃ p w, Source.pool.create start = .ok (.pooled p) w ∧ w.proxies.get p.index = default ∧
      p.read "closed" (p.afterAll before w) = .error gone.raised (p.afterAll before w) ∧
      closingCalls w (p.afterAll uses w) = [(.giveBack (.lent p.raw), some full)] ∧
      p.read "closed" (p.afterAll uses w) = .ok (.bool true) (p.afterAll uses w) := by
  intro gone full raw start before uses
  obtain ⟨p, w, created⟩ : ∃ p w, Source.pool.create start = .ok (.pooled p) w := ⟨_, _, rfl⟩
  have new := created_proxy_new (fun _ _ => rfl) created
  obtain ⟨unclosed, _⟩ := proxy_hands_back_once new before
  obtain ⟨_, closed⟩ := proxy_hands_back_once new uses
  obtain ⟨handed, reads, _⟩ := closed (by simp [uses])
  obtain ⟨_, raises, _⟩ := unclosed (by simp [before])
  cases created
  exact ⟨_, _, rfl, new, raises, handed, reads⟩

end SqlScope
