import SqlScope.Proofs.WrappedErrors

set_option autoImplicit false

namespace SqlScope

open SqlScope.Action

variable {α β : Type}

def Schedule.Clear (s : Schedule) : Prop := ∀ g, some g ∉ s

theorem clear_tail {s : Schedule} (clear : s.Clear) : Schedule.Clear s.tail :=
  fun g member => clear g (List.mem_of_mem_tail member)

theorem due_of_clear {s : Schedule} (clear : s.Clear) : s.due = none := by
  cases s with
  | nil => rfl
  | cons first rest =>
      cases first with
      | none => rfl
      | some g => exact absurd List.mem_cons_self (clear g)

def Reading.Optional (r : Reading α) : Prop := ∀ g, r = .raises g → g.kind = .attribute

structure Result.Calm (r : Result) : Prop where
  fault : r.fault = none
  description : ∃ d columns, r.description = .gives d ∧ Column.ofDescription d = .ok columns
  rowCount : ∃ n, r.rowCount = .gives n
  scroll : r.scroll.Optional
  fetches : r.fetchFaults.Clear
  scrolls : r.scrollFaults.Clear

structure RawCursorState.Calm (t : RawCursorState) : Prop where
  result : t.result.Calm
  fetches : t.fetchFaults.Clear
  scrolls : t.scrollFaults.Clear

structure RawConnectionState.Calm (t : RawConnectionState) : Prop where
  opens : t.openFault = none
  cursorCalls : t.cursorFaults.Clear
  closes : t.closeFaults.Clear
  commits : t.commitFaults.Clear
  rollbacks : t.rollbackFaults.Clear
  assigns : t.assignFaults.Clear
  cursorCloses : t.closeCursorFaults.Clear
  attributes : ∀ name g, t.attributes.get? name ≠ some (.raises g)
  results : ∀ r ∈ t.results, r.Calm
  cursors : ∀ i, (t.cursors.get i).Calm

structure ProxyState.Genuine (t : ProxyState) : Prop where
  connection : t.attributes.get? "_connection" = none
  pool : t.attributes.get? "_pool" = none

structure Calm (w : World) : Prop where
  connections : ∀ i, (w.connections.get i).Calm
  borrows : w.pool.borrowFaults.Clear
  returns : w.pool.giveBackFaults.Clear
  proxies : ∀ i, (w.proxies.get i).Genuine
  statements : ∀ i, w.handles ≤ i → (w.statements.get i).parameters = []

theorem default_result_calm : (default : Result).Calm where
  fault := rfl
  description := ⟨none, [], rfl, rfl⟩
  rowCount := ⟨some (-1), rfl⟩
  scroll _ raises := by cases raises
  fetches _ member := by cases member
  scrolls _ member := by cases member

theorem opened_calm {r : Result} (calm : r.Calm) : r.opened.Calm := ⟨calm, calm.fetches, calm.scrolls⟩

theorem default_calm : (default : RawConnectionState).Calm where
  opens := rfl
  cursorCalls _ member := by cases member
  closes _ member := by cases member
  commits _ member := by cases member
  rollbacks _ member := by cases member
  assigns _ member := by cases member
  cursorCloses _ member := by cases member
  attributes name g raises := by
    change (if "closed" == name then some (.gives (Value.bool false)) else none) = some (Reading.raises g) at raises
    split at raises <;> cases raises
  results _ member := by cases member
  cursors _ := opened_calm default_result_calm

def Call.fetches (q : RawCursor) : Call → Bool
  | .fetch r => r == q
  | _ => false

def RawCursor.fetches (q : RawCursor) (w : World) : Nat := w.count (Call.fetches q)

-- The driver stays calm, and the cursors that were open keep their rows, save for those that the work is on.
structure Calmly (x : RawCursor → Prop) (w w' : World) : Prop where
  calm : Calm w'
  handles : w.handles ≤ w'.handles
  opened : ∀ q : RawCursor, q.Opened w → q.Opened w'
  record : ∀ q : RawCursor, q.Opened w → ¬ x q → q.record w' = q.record w
  fetches : ∀ q : RawCursor, q.Opened w → ¬ x q → q.fetches w' = q.fetches w

def Smooth (x : RawCursor → Prop) (a : Action α) : Prop :=
  ∀ w, Calm w → a.Ends w (fun _ w' => Calmly x w w') fun _ _ => False

variable {x y : RawCursor → Prop} {u v w w' : World}

theorem calmly_refl (calm : Calm w) : Calmly x w w where
  calm := calm
  handles := Nat.le_refl _
  opened _ opened := opened
  record _ _ _ := rfl
  fetches _ _ _ := rfl

theorem calmly_trans (first : Calmly x u v) (second : Calmly x v w) : Calmly x u w where
  calm := second.calm
  handles := Nat.le_trans first.handles second.handles
  opened q opened := second.opened q (first.opened q opened)
  record q opened other := by
    rw [second.record q (first.opened q opened) other, first.record q opened other]
  fetches q opened other := by
    rw [second.fetches q (first.opened q opened) other, first.fetches q opened other]

theorem calmly_mono (fewer : ∀ q, y q → x q) (calmly : Calmly y w w') : Calmly x w w' :=
  { calmly with
    record := fun q opened other => calmly.record q opened fun own => other (fewer q own)
    fetches := fun q opened other => calmly.fetches q opened fun own => other (fewer q own) }

theorem calmly_new {q : RawCursor} (new : ¬ q.Opened u) (first : Calmly x u v) (second : Calmly (· = q) v w) :
    Calmly x u w where
  calm := second.calm
  handles := Nat.le_trans first.handles second.handles
  opened r opened := second.opened r (first.opened r opened)
  record r opened other := by
    have older : r ≠ q := fun same => new (same ▸ opened)
    rw [second.record r (first.opened r opened) older, first.record r opened other]
  fetches r opened other := by
    have older : r ≠ q := fun same => new (same ▸ opened)
    rw [second.fetches r (first.opened r opened) older, first.fetches r opened other]

theorem smooth_ok {a : Action α} (smooth : Smooth x a) (calm : Calm w) :
    ∃ v w', a w = .ok v w' ∧ Calmly x w w' := by
  have ends := smooth w calm
  cases ran : a w with
  | ok v w' =>
      have onward := ends_ok ends ran
      exact ⟨v, w', rfl, onward⟩
  | error f w' => exact (ends_error ends ran).elim

theorem smooth_run {a : Action α} {v : α} (smooth : Smooth x a) (calm : Calm w) (run : a w = .ok v w') :
    Calmly x w w' := by
  have onward := ends_ok (smooth w calm) run
  exact onward

theorem smooth_pure (v : α) : Smooth x (pure v : Action α) := fun _ calm => calmly_refl calm

theorem smooth_bind_gives {P : α → Prop} {a : Action α} {f : α → Action β} (first : Smooth x a)
    (gives : Gives P a) (rest : ∀ v, P v → Smooth x (f v)) : Smooth x (a >>= f) := by
  intro w calm
  obtain ⟨v, w₁, ran, onward⟩ := smooth_ok first calm
  obtain ⟨b, w₂, ran', onward'⟩ := smooth_ok (rest v (gives w v w₁ ran)) onward.calm
  rw [Ends, bind_of_ok ran, ran']
  exact calmly_trans onward onward'

theorem smooth_bind {a : Action α} {f : α → Action β} (first : Smooth x a) (rest : ∀ v, Smooth x (f v)) :
    Smooth x (a >>= f) :=
  smooth_bind_gives (P := fun _ => True) first (fun _ _ _ _ => trivial) fun v _ => rest v

theorem smooth_on_ordinary {a : Action α} {recover : Failure → Action α} (smooth : Smooth x a) :
    Smooth x (onOrdinary a recover) := by
  intro w calm
  obtain ⟨v, w₁, ran, onward⟩ := smooth_ok smooth calm
  rw [Ends, on_ordinary_of_ok ran]
  exact onward

theorem smooth_wrapping {a : Action α} (kind : Kind) (message : String) (smooth : Smooth x a) :
    Smooth x (wrapping kind message a) :=
  smooth_on_ordinary smooth

theorem smooth_or_missing {a : Action α} (fallback : α) (smooth : Smooth x a) : Smooth x (orMissing a fallback) := by
  intro _ calm
  obtain ⟨v, w₁, ran, onward⟩ := smooth_ok smooth calm
  rw [Ends, or_missing_of_ok ran]
  exact onward

theorem smooth_or_missing_attribute {a : Action α} (fallback : α)
    (reads : ∀ w, Calm w → ∃ r : Except Failure α, outcome a w = .ok r w ∧ ∀ f, r = .error f → f.kind = .attribute) :
    Smooth x (orMissing a fallback) := by
  intro w calm
  obtain ⟨r, ran, missing⟩ := reads w calm
  rw [Ends]
  cases r with
  | ok v =>
      rw [or_missing_of_ok (ok_of_outcome ran)]
      exact calmly_refl calm
  | error f =>
      rw [or_missing_of_error (error_of_outcome ran) (missing f rfl)]
      exact calmly_refl calm

theorem calmly_aside (calm : Calm w) (connections : w'.connections = w.connections) (pool : w'.pool = w.pool)
    (proxies : ∀ i, (w'.proxies.get i).Genuine) (handles : w.handles ≤ w'.handles)
    (statements : ∀ i, w'.handles ≤ i → (w'.statements.get i).parameters = []) (history : w'.history = w.history) :
    Calmly x w w' where
  calm := ⟨fun i => connections ▸ calm.connections i, pool ▸ calm.borrows, pool ▸ calm.returns, proxies, statements⟩
  handles := handles
  opened q opened := by rwa [RawCursor.Opened, connections]
  record q _ _ := by rw [RawCursor.record, RawCursor.record, connections]
  fetches q _ _ := by rw [RawCursor.fetches, RawCursor.fetches, World.count, World.count, history]

theorem smooth_note {e : Event} (apart : ∀ q, ¬ x q → e.calls (Call.fetches q) = false) : Smooth x (note e) := by
  intro _ calm
  refine ⟨⟨calm.connections, calm.borrows, calm.returns, calm.proxies, calm.statements⟩, Nat.le_refl _,
    fun _ opened => opened, fun _ _ _ => rfl, fun q _ other => ?_⟩
  simp only [RawCursor.fetches, World.count, List.countP_cons, apart q other, Bool.false_eq_true, if_false, Nat.add_zero]

theorem smooth_debug (channel : Channel) (text : String) : Smooth x (debug channel text) :=
  smooth_note fun _ _ => rfl

theorem smooth_attempt {call : Call} {due : Option Fault} (clear : due = none)
    (apart : ∀ q, ¬ x q → call.fetches q = false) : Smooth x (attempt call due) := by
  subst clear
  exact smooth_note apart

theorem smooth_fresh : Smooth x fresh := fun _ calm =>
  calmly_aside calm rfl rfl calm.proxies (Nat.le_succ _) (fun i above => calm.statements i (Nat.le_of_succ_le above)) rfl

structure Eases (x : RawCursor → Prop) (c : RawConnection) (t t' : RawConnectionState) : Prop where
  calm : t'.Calm
  opened : t.cursorsOpened ≤ t'.cursorsOpened
  cursors : ∀ i, ¬ x ⟨c, i⟩ → t'.cursors.get i = t.cursors.get i

namespace RawConnection

theorem smooth_update {c : RawConnection} {h : RawConnectionState → RawConnectionState}
    (eases : ∀ t, t.Calm → Eases x c t (h t)) : Smooth x (c.update h) := by
  intro w calm
  have eased := eases _ (calm.connections c.index)
  let w₁ := { w with connections := w.connections.put c.index (h (w.connections.get c.index)) }
  have there : ∀ i, w₁.connections.get i = if c.index = i then h (w.connections.get c.index) else w.connections.get i :=
    fun i => Table.get_put _ _ _ _
  have opened : ∀ q : RawCursor, q.Opened w → q.Opened w₁ := fun q opened => by
    unfold RawCursor.Opened at opened ⊢
    rw [there]
    split
    · rename_i same
      rw [← same] at opened
      exact Nat.lt_of_lt_of_le opened eased.opened
    · exact opened
  have record : ∀ q : RawCursor, q.Opened w → ¬ x q → q.record w₁ = q.record w := fun q _ other => by
    obtain ⟨⟨k⟩, i⟩ := q
    unfold RawCursor.record
    rw [there]
    split
    · rename_i same
      cases c
      cases same
      exact eased.cursors i other
    · rfl
  have connections : ∀ i, (w₁.connections.get i).Calm := fun i => by
    rw [there]
    split
    · exact eased.calm
    · exact calm.connections i
  exact ⟨⟨connections, calm.borrows, calm.returns, calm.proxies, calm.statements⟩, Nat.le_refl _, opened, record,
    fun _ _ _ => rfl⟩

theorem smooth_state {c : RawConnection} {g : RawConnectionState → Action α}
    (rest : ∀ t, t.Calm → Smooth x (g t)) : Smooth x (c.state >>= g) :=
  fun w calm => rest (w.connections.get c.index) (calm.connections c.index) w calm

theorem smooth_open_cursor (c : RawConnection) : Smooth x c.openCursor := by
  refine smooth_state fun t calm => ?_
  refine smooth_bind (smooth_update fun t calm =>
    ⟨{ calm with cursorCalls := clear_tail calm.cursorCalls }, Nat.le_refl _, fun _ _ => rfl⟩) fun _ => ?_
  refine smooth_bind (smooth_attempt (due_of_clear calm.cursorCalls) fun _ _ => rfl) fun _ => ?_
  refine smooth_bind (smooth_update fun t calm => ⟨{ calm with }, Nat.le_succ _, fun _ _ => rfl⟩) fun _ => ?_
  exact smooth_pure _

theorem mark_closed_eases {c : RawConnection} {t : RawConnectionState} (calm : t.Calm) :
    Eases x c t (markClosed t) := by
  unfold markClosed
  by_cases named : (t.attributes.get? "closed").isSome
  · rw [if_pos named]
    refine ⟨{ calm with attributes := fun name g raises => ?_ }, Nat.le_refl _, fun _ _ => rfl⟩
    rw [Entries.get?_insert] at raises
    split at raises
    · cases raises
    · exact calm.attributes name g raises
  · rw [if_neg named]
    exact ⟨calm, Nat.le_refl _, fun _ _ => rfl⟩

theorem smooth_close (c : RawConnection) : Smooth x c.close := by
  refine smooth_state fun t calm => ?_
  refine smooth_bind (smooth_update fun t calm =>
    ⟨{ calm with closes := clear_tail calm.closes }, Nat.le_refl _, fun _ _ => rfl⟩) fun _ => ?_
  refine smooth_bind (smooth_attempt (due_of_clear calm.closes) fun _ _ => rfl) fun _ => ?_
  exact smooth_update fun t calm => mark_closed_eases calm

theorem read_calm (c : RawConnection) (name : String) (calm : Calm w) :
    ∃ r : Except Failure Value, outcome (c.read name) w = .ok r w ∧ ∀ f, r = .error f → f.kind = .attribute := by
  cases named : (w.connections.get c.index).attributes.get? name with
  | none =>
      refine ⟨_, outcome_of_error (raw_read_of_missing named), fun f same => ?_⟩
      cases same
      rfl
  | some r =>
      cases r with
      | gives v => exact ⟨.ok v, outcome_of_ok (raw_read_of_named named), fun f absurd => by cases absurd⟩
      | raises g => exact ((calm.connections c.index).attributes name g named).elim

end RawConnection

namespace RawCursor

theorem smooth_update {q : RawCursor} (own : x q) {h : RawCursorState → RawCursorState}
    (keeps : ∀ t, t.Calm → (h t).Calm) : Smooth x (q.update h) := by
  refine RawConnection.smooth_update fun t calm => ⟨{ calm with cursors := fun i => ?_ }, Nat.le_refl _, fun i other => ?_⟩
  · rw [Table.get_put]
    split
    · exact keeps _ (calm.cursors q.index)
    · exact calm.cursors i
  · rw [Table.get_put]
    split
    · rename_i same
      subst same
      exact (other own).elim
    · rfl

theorem smooth_execute {q : RawCursor} (own : x q) (sql : String) (parameters : Option (List Value)) :
    Smooth x (q.execute sql parameters) := by
  refine RawConnection.smooth_state fun t calm => ?_
  have next : (t.results.head?.getD default).Calm := by
    cases coming : t.results with
    | nil => exact default_result_calm
    | cons r rest => exact calm.results r (coming ▸ List.mem_cons_self)
  refine smooth_bind (RawConnection.smooth_update fun t calm =>
    ⟨{ calm with results := fun r member => calm.results r (List.mem_of_mem_tail member) }, Nat.le_refl _, fun _ _ => rfl⟩) fun _ => ?_
  refine smooth_bind (smooth_update own fun _ _ => ?_) fun _ => smooth_attempt next.fault fun _ _ => rfl
  rw [next.fault]
  exact opened_calm next

theorem description_calm (q : RawCursor) (calm : Calm w) :
    ∃ d columns, q.description w = .ok d w ∧ Column.ofDescription d = .ok columns := by
  obtain ⟨d, columns, given, sound⟩ := ((calm.connections q.connection.index).cursors q.index).result.description
  refine ⟨d, columns, ?_, sound⟩
  change (q.record w).result.description.get w = _
  rw [RawCursor.record, given]
  rfl

theorem smooth_close (q : RawCursor) : Smooth x q.close := by
  refine RawConnection.smooth_state fun t calm => ?_
  refine smooth_bind (RawConnection.smooth_update fun t calm =>
    ⟨{ calm with cursorCloses := clear_tail calm.cursorCloses }, Nat.le_refl _, fun _ _ => rfl⟩) fun _ => ?_
  exact smooth_attempt (due_of_clear calm.cursorCloses) fun _ _ => rfl

end RawCursor

namespace Proxy

theorem held_calm (p : Proxy) (calm : Calm w) : p.held w = .ok (.lent p.raw) w := by
  rw [proxy_held_ok, ProxyState.held, (calm.proxies p.index).connection]
  rfl

theorem smooth_update (p : Proxy) {h : ProxyState → ProxyState} (keeps : ∀ t, (h t).attributes = t.attributes) :
    Smooth x (p.update h) := by
  intro w calm
  refine calmly_aside calm rfl rfl (fun i => ?_) (Nat.le_refl _) calm.statements rfl
  have there : (w.proxies.put p.index (h (w.proxies.get p.index))).get i =
      if p.index = i then h (w.proxies.get p.index) else w.proxies.get i := Table.get_put _ _ _ _
  change ((w.proxies.put p.index (h (w.proxies.get p.index))).get i).Genuine
  rw [there]
  split
  · have genuine := calm.proxies p.index
    exact ⟨keeps (w.proxies.get p.index) ▸ genuine.connection, keeps (w.proxies.get p.index) ▸ genuine.pool⟩
  · exact calm.proxies i

theorem smooth_give_back (p : Proxy) : Smooth x p.giveBack := by
  intro w calm
  let w₁ := { w with pool := { w.pool with giveBackFaults := w.pool.giveBackFaults.tail } }
  have same : p.giveBack w = attempt (.giveBack (.lent p.raw)) none w₁ := by
    rw [giveBack, bind_of_ok (proxy_state_ok p w), (calm.proxies p.index).pool]
    change (p.held >>= Pool.giveBack) w = _
    rw [bind_of_ok (p.held_calm calm)]
    change attempt (.giveBack (.lent p.raw)) w.pool.giveBackFaults.due w₁ = _
    rw [due_of_clear calm.returns]
  have spent : Calm w₁ := ⟨calm.connections, calm.borrows, clear_tail calm.returns, calm.proxies, calm.statements⟩
  have gives : Smooth x (attempt (.giveBack (.lent p.raw)) none) := smooth_attempt rfl fun _ _ => rfl
  have made := gives w₁ spent
  rw [Ends, same]
  exact { made with }

theorem smooth_state {p : Proxy} {g : ProxyState → Action α} (rest : ∀ t, Smooth x (g t)) :
    Smooth x (p.state >>= g) :=
  fun w calm => rest _ w calm

theorem smooth_close (p : Proxy) : Smooth x p.close := by
  refine smooth_state fun t => ?_
  by_cases released : t.released.isTruthy
  · simp only [if_pos released]
    exact smooth_pure ()
  · simp only [if_neg released]
    refine smooth_bind (p.smooth_update fun _ => rfl) fun _ => ?_
    exact smooth_bind p.smooth_give_back fun _ => smooth_debug _ _

theorem smooth_closed (p : Proxy) : Smooth x p.closed := by
  refine smooth_state fun t => ?_
  by_cases released : t.released.isTruthy
  · simp only [if_pos released]
    exact smooth_pure _
  · simp only [if_neg released]
    intro w calm
    rw [Ends, bind_of_ok (p.held_calm calm)]
    refine smooth_bind (smooth_or_missing_attribute _ fun u calm => ?_) (fun _ => smooth_pure _) w calm
    exact p.raw.read_calm "closed" calm

end Proxy

namespace Connection

theorem held_calm (c : Connection) (calm : Calm w) : c.held w = .ok (.lent c.raw) w := by
  cases c with
  | direct k => rfl
  | pooled p => exact p.held_calm calm

theorem smooth_callee (c : Connection) (name : String) {g : RawConnection → Action α} (smooth : Smooth x (g c.raw)) :
    Smooth x (c.held >>= fun h => h.callee name >>= g) := by
  intro w calm
  rw [Ends, bind_of_ok (c.held_calm calm)]
  exact smooth w calm

theorem smooth_open_cursor (c : Connection) : Smooth x c.openCursor :=
  c.smooth_callee "cursor" c.raw.smooth_open_cursor

theorem smooth_close (c : Connection) : Smooth x c.close := by
  cases c with
  | direct k => exact k.smooth_close
  | pooled p => exact p.smooth_close

theorem smooth_probe (c : Connection) : Smooth x (c.readOr "closed" (.bool false)) := by
  cases c with
  | direct k => exact smooth_or_missing_attribute _ fun w calm => k.read_calm "closed" calm
  | pooled p => exact smooth_or_missing _ p.smooth_closed

end Connection

namespace Source

theorem smooth_open_next {call : Call} (apart : ∀ q, ¬ x q → call.fetches q = false) : Smooth x (openNext call) := by
  intro w calm
  let w₁ := { w with opened := w.opened + 1 }
  have opens : (w.connections.get w.opened).openFault = none := (calm.connections w.opened).opens
  have same : openNext call w = (attempt call (w.connections.get w.opened).openFault >>= fun _ => pure ⟨w.opened⟩) w₁ := rfl
  have onward : Calm w₁ := ⟨calm.connections, calm.borrows, calm.returns, calm.proxies, calm.statements⟩
  have made := smooth_bind (smooth_attempt opens apart) (fun _ => smooth_pure (RawConnection.mk w.opened)) w₁ onward
  rw [Ends, same]
  exact ends_mono made (fun _ _ went => { went with }) fun _ _ => id

theorem smooth_take : Smooth x Pool.borrow := by
  intro w calm
  let w₁ := { w with pool := { w.pool with borrowFaults := w.pool.borrowFaults.tail } }
  have spent : Calm w₁ := ⟨calm.connections, clear_tail calm.borrows, calm.returns, calm.proxies, calm.statements⟩
  rw [Ends, borrow_undisturbed (due_of_clear calm.borrows)]
  exact ends_mono (smooth_open_next (x := x) (fun _ _ => rfl) w₁ spent) (fun _ _ went => { went with }) fun _ _ => id

theorem smooth_create {source : Source} (serves : source.Serves) : Smooth x source.create := by
  cases source with
  | plain => exact smooth_bind (smooth_open_next fun _ _ => rfl) fun _ => smooth_pure _
  | pool =>
      refine smooth_bind (smooth_on_ordinary smooth_take) fun raw => ?_
      exact smooth_bind (smooth_debug _ _) fun _ => smooth_bind smooth_fresh fun _ => smooth_pure _
  | settings s =>
      obtain ⟨truthy, options, arguments, sound, usable⟩ := serves
      change Smooth x (connect s)
      unfold connect
      rw [if_pos truthy, sound]
      refine smooth_bind_gives (P := (· = options)) (smooth_pure options) (gives_pure rfl) fun chosen same => ?_
      rw [same, usable]
      have opens : Smooth x (pure arguments >>= fun arguments => openNext (.connect s.url arguments)) :=
        smooth_bind (smooth_pure arguments) fun _ => smooth_open_next fun _ _ => rfl
      refine smooth_bind (smooth_on_ordinary opens) fun _ => ?_
      exact smooth_bind (smooth_debug _ _) fun _ => smooth_pure _

end Source

namespace Session

theorem smooth_update (s : Session) (h : SessionState → SessionState) : Smooth x (s.update h) :=
  fun _ calm => calmly_aside calm rfl rfl calm.proxies (Nat.le_refl _) calm.statements rfl

theorem smooth_state {s : Session} {g : SessionState → Action α} (rest : ∀ t, Smooth x (g t)) :
    Smooth x (s.state >>= g) :=
  fun w calm => rest _ w calm

theorem smooth_active (s : Session) : Smooth x s.active? := by
  refine smooth_state fun t => ?_
  split
  · exact smooth_pure none
  · rename_i c _
    exact smooth_on_ordinary (smooth_bind c.smooth_probe fun _ => smooth_pure _)

theorem smooth_discard (s : Session) : Smooth x s.discard := by
  refine smooth_state fun t => ?_
  split
  · exact smooth_bind (smooth_debug _ _) fun _ => s.smooth_update _
  · exact smooth_pure ()

theorem smooth_acquire {s : Session} (serves : s.source.Serves) : Smooth x s.acquire := by
  refine smooth_bind s.smooth_discard fun _ => smooth_bind (Source.smooth_create serves) fun c => ?_
  exact smooth_bind (s.smooth_update _) fun _ => smooth_bind (smooth_debug _ _) fun _ => smooth_pure c

theorem smooth_entry {s : Session} (serves : s.source.Serves) : Smooth x s.entry := by
  refine smooth_bind s.smooth_active fun bound => ?_
  cases bound with
  | some c => exact smooth_pure c
  | none => exact smooth_acquire serves

theorem smooth_let_go (s : Session) (c : Connection) : Smooth x (s.letGo c) := by
  refine smooth_state fun t => ?_
  split
  · exact smooth_bind (s.smooth_update _) fun _ => smooth_pure true
  · exact smooth_pure false

theorem smooth_release (s : Session) (c : Connection) : Smooth x (s.release c) := by
  refine smooth_bind (s.smooth_let_go c) fun bound => ?_
  cases bound with
  | true => exact smooth_bind (smooth_wrapping _ _ c.smooth_close) fun _ => smooth_debug _ _
  | false => exact smooth_pure ()

theorem smooth_release_after_failure (s : Session) (c : Connection) : Smooth x (s.releaseAfterFailure c) := by
  refine smooth_bind (s.smooth_let_go c) fun bound => ?_
  cases bound with
  | true => exact smooth_on_ordinary c.smooth_close
  | false => exact smooth_pure ()

end Session

namespace Statement

theorem smooth_state {s : Statement} {g : StatementState → Action α} (rest : ∀ t, Smooth x (g t)) :
    Smooth x (s.state >>= g) :=
  fun w calm => rest _ w calm

theorem smooth_close (s : Statement) : Smooth x s.close := by
  refine smooth_state fun t => ?_
  split
  · exact smooth_pure ()
  · refine smooth_bind (fun w calm => ?_) fun _ => s.cursor.smooth_close
    refine calmly_aside calm rfl rfl calm.proxies (Nat.le_refl _) (fun i above => ?_) rfl
    have there : ((s.update fun t => { t with closed := true }).after w).statements.get i =
        if s.index = i then { w.statements.get s.index with closed := true } else w.statements.get i := Table.get_put _ _ _ _
    change (((s.update fun t => { t with closed := true }).after w).statements.get i).parameters = []
    rw [there]
    split
    · rename_i same
      subst same
      exact calm.statements s.index above
    · exact calm.statements i above

end Statement

-- A binder of this statement that leaves no gap between its values and works on no other cursor.
def Binder.Fills (t : Statement) (a : Action Unit) : Prop :=
  ∀ w, Calm w → t.index < w.handles → (w.statements.get t.index).parameters = [] →
    a.Ends w
      (fun _ w' => Calmly (· = t.cursor) w w' ∧ Placeholders.missing (w'.statements.get t.index).parameters = [])
      fun _ _ => False

structure Placeholders.Full (n : Nat) (es : Entries Nat Value) : Prop where
  bound : ∀ i, 1 ≤ i → i ≤ n → (es.get? i).isSome = true
  last : ∀ i ∈ es.keys, i ≤ n

theorem Placeholders.last_le {n : Nat} {keys : List Nat} (low : ∀ i ∈ keys, i ≤ n) {m : Nat} (start : m ≤ n) :
    keys.foldl max m ≤ n := by
  induction keys generalizing m with
  | nil => exact start
  | cons i rest ih =>
      have first := low i List.mem_cons_self
      exact ih (fun j member => low j (List.mem_cons_of_mem i member)) (Nat.max_le.mpr ⟨start, first⟩)

theorem Placeholders.missing_of_full {n : Nat} {es : Entries Nat Value} (full : Full n es) : missing es = [] := by
  refine List.filter_eq_nil_iff.mpr fun i member unbound => ?_
  obtain ⟨low, high⟩ := List.mem_range'_1.mp member
  have last : Placeholders.last es ≤ n := last_le full.last (Nat.zero_le n)
  have bound := full.bound i low (by omega)
  rw [Option.isNone_iff_eq_none.mp unbound] at bound
  cases bound

theorem Placeholders.full_insert {n : Nat} {es : Entries Nat Value} (full : Full n es) (v : Value) :
    Full (n + 1) (es.insert (n + 1) v) where
  bound i low high := by
    rw [Entries.get?_insert]
    split
    · rfl
    · rename_i other
      have apart : n + 1 ≠ i := fun same => other (beq_iff_eq.mpr same)
      exact full.bound i low (by omega)
  last i member := by
    rw [Entries.keys_insert] at member
    split at member
    · exact Nat.le_succ_of_le (full.last i member)
    · rcases List.mem_append.mp member with older | newest
      · exact Nat.le_succ_of_le (full.last i older)
      · exact Nat.le_of_eq (List.mem_singleton.mp newest)

theorem Statement.smooth_update {t : Statement} {h : StatementState → StatementState} (calm : Calm w)
    (there : t.index < w.handles) : Calmly x w ((t.update h).after w) := by
  refine calmly_aside calm rfl rfl calm.proxies (Nat.le_refl _) (fun i above => ?_) rfl
  have apart : t.index ≠ i := by
    have above : w.handles ≤ i := above
    omega
  have same : ((t.update h).after w).statements.get i = w.statements.get i :=
    (Table.get_put _ _ _ _).trans (if_neg apart)
  rw [same]
  exact calm.statements i above

theorem Binder.set_from_fills (t : Statement) (values : List Value) {n : Nat} (calm : Calm w) (there : t.index < w.handles)
    (full : Placeholders.Full n (w.statements.get t.index).parameters) :
    ∃ w', setFrom t (n + 1) values w = .ok () w' ∧ Calmly (· = t.cursor) w w' ∧
      Placeholders.missing (w'.statements.get t.index).parameters = [] := by
  induction values generalizing n w with
  | nil => exact ⟨w, rfl, calmly_refl calm, Placeholders.missing_of_full full⟩
  | cons v rest ih =>
      let enter : StatementState → StatementState := fun s => { s with parameters := s.parameters.insert (n + 1) v }
      let w₁ := (t.update enter).after w
      have ran : t.set ((n : Int) + 1) v w = .ok () w₁ := by
        have index : ((n : Int) + 1).toNat = n + 1 := by omega
        rw [Statement.set, if_neg (by omega), index]
        rfl
      have state : w₁.statements.get t.index = enter (w.statements.get t.index) := (Table.get_put _ _ _ _).trans (if_pos rfl)
      have first : Calmly (· = t.cursor) w w₁ := Statement.smooth_update calm there
      have longer : Placeholders.Full (n + 1) (w₁.statements.get t.index).parameters := by
        rw [state]
        exact Placeholders.full_insert full v
      obtain ⟨w', ran', later, done⟩ := ih first.calm (Nat.lt_of_lt_of_le there first.handles) longer
      exact ⟨w', (bind_of_ok ran).trans ran', calmly_trans first later, done⟩

theorem Binder.of_given_fills (given : Given) (t : Statement) : Binder.Fills t (ofGiven given t) := by
  intro w calm there empty
  have none : Placeholders.Full 0 (w.statements.get t.index).parameters := by
    rw [empty]
    exact ⟨fun i low high => absurd low (by omega), fun i member => by cases member⟩
  have fills : ∀ values, ((setFrom t 1 values).Ends w (fun _ w' => Calmly (· = t.cursor) w w' ∧
      Placeholders.missing (w'.statements.get t.index).parameters = []) fun _ _ => False) := fun values => by
    obtain ⟨w', ran, onward, done⟩ := set_from_fills t values calm there none
    have ran : setFrom t 1 values w = .ok () w' := ran
    rw [Ends, ran]
    exact ⟨onward, done⟩
  cases given with
  | nothing => exact fills []
  | list values => exact fills values
  | text s => exact fills _

theorem Statement.open_bound_calm (c : Connection) (sql : String) {bind : Binder}
    (fills : ∀ t : Statement, Binder.Fills t (bind t)) (calm : Calm w) :
    ∃ t w', Statement.openBound c sql bind w = .ok t w' ∧ Calmly (fun _ => False) w w' ∧ ¬ t.cursor.Opened w ∧
      t.cursor.Opened w' ∧ Placeholders.missing (w'.statements.get t.index).parameters = [] := by
  have opens : Smooth (fun _ => False) (wrapping .execution "Failed to open statement" c.openCursor) :=
    smooth_wrapping _ _ c.smooth_open_cursor
  obtain ⟨q, w₁, opened, first⟩ := smooth_ok opens calm
  let t : Statement := ⟨w₁.handles, sql, q⟩
  let w₂ := { w₁ with handles := w₁.handles + 1 }
  have onward : Calmly (fun _ => False) w w₂ := calmly_trans first (smooth_run smooth_fresh first.calm rfl)
  have ran : Statement.on c sql w = .ok t w₂ := bind_of_ok opened
  obtain ⟨new, there⟩ := Statement.on_new c sql w t w₂ ran
  have ends := fills t w₂ onward.calm (Nat.lt_succ_self _) (first.calm.statements _ (Nat.le_refl _))
  cases bound : bind t w₂ with
  | error f w₃ => exact (ends_error ends bound).elim
  | ok v w₃ =>
      obtain ⟨filling, full⟩ := ends_ok ends bound
      refine ⟨t, w₃, ?_, calmly_new new onward filling, new, filling.opened t.cursor there, full⟩
      exact (bind_of_ok ran).trans (bind_of_ok (outcome_of_ok bound))

theorem RawCursor.execute_calm (q : RawCursor) (sql : String) (parameters : Option (List Value)) (calm : Calm w) :
    ∃ w', q.execute sql parameters w = .ok () w' ∧ Calmly (· = q) w w' ∧
      q.record w' = ((w.connections.get q.connection.index).results.head?.getD default).opened := by
  let t := w.connections.get q.connection.index
  let result := t.results.head?.getD default
  let w₁ := { w with connections := w.connections.put q.connection.index { t with results := t.results.tail } }
  let w₂ := (q.update fun _ => if result.fault.isSome then default else result.opened).after w₁
  have same : q.execute sql parameters w = attempt (.execute q sql parameters) result.fault w₂ := rfl
  have smooth : Smooth (· = q) (q.execute sql parameters) := smooth_execute (x := (· = q)) rfl sql parameters
  obtain ⟨_, w', ran, onward⟩ := smooth_ok smooth calm
  refine ⟨w', ran, onward, ?_⟩
  rw [same] at ran
  cases due : result.fault with
  | some g =>
      rw [due] at ran
      cases ran
  | none =>
      rw [due] at ran
      cases ran
      have opened : q.record w₂ = if result.fault.isSome then default else result.opened := q.record_updated _ w₁
      rw [due] at opened
      exact opened

theorem Statement.query_calm (t : Statement) (calm : Calm w)
    (full : Placeholders.missing (w.statements.get t.index).parameters = []) :
    ∃ r w', t.query w = .ok r w' ∧ r.cursor = t.cursor ∧ Calmly (· = t.cursor) w w' ∧
      t.cursor.record w' = ((w.connections.get t.cursor.connection.index).results.head?.getD default).opened := by
  let values := Placeholders.values (w.statements.get t.index).parameters
  let text := "Executing " ++ t.sql ++ " with " ++ toString values.length ++ " parameter(s)"
  have read : t.parameters w = .ok values w := by
    have looked : t.state w = .ok (w.statements.get t.index) w := rfl
    rw [Statement.parameters, bind_of_ok looked]
    simp only [full]
    rfl
  have logged := smooth_run (x := (· = t.cursor)) (smooth_debug .statement text) calm rfl
  obtain ⟨w₁, executed, onward, record⟩ :=
    t.cursor.execute_calm t.sql (if values.isEmpty then none else some values) logged.calm
  obtain ⟨d, columns, described, sound⟩ := t.cursor.description_calm onward.calm
  let w₂ := { w₁ with handles := w₁.handles + 1 }
  have last : Calmly (· = t.cursor) w₁ w₂ := smooth_run smooth_fresh onward.calm rfl
  refine ⟨⟨w₁.handles, t.cursor, columns⟩, w₂, ?_, rfl, calmly_trans logged (calmly_trans onward last), record⟩
  have ran : t.execute values w = .ok () w₁ := on_ordinary_of_ok executed
  rw [Statement.query, bind_of_ok read, bind_of_ok ran, RowCursor.ofCursor, bind_of_ok described, sound]
  rfl

theorem RowCursor.smooth_close (r : RowCursor) : Smooth x r.close := by
  refine fun w calm => ?_
  by_cases closed : (w.rowCursors.get r.index).closed
  · have same : r.close w = .ok () w := by
      change (if (w.rowCursors.get r.index).closed then pure () else _ : Action Unit) w = _
      rw [if_pos closed]
      rfl
    rw [Ends, same]
    exact calmly_refl calm
  · have same : r.close w = (r.put ⟨none, true⟩ >>= fun _ => r.cursor.close) w := by
      change (if (w.rowCursors.get r.index).closed then pure () else _ : Action Unit) w = _
      rw [if_neg closed]
    have put : Smooth x (r.put ⟨none, true⟩) := fun _ calm =>
      calmly_aside calm rfl rfl calm.proxies (Nat.le_refl _) calm.statements rfl
    rw [Ends, same]
    exact smooth_bind put (fun _ => r.cursor.smooth_close) w calm

end SqlScope
