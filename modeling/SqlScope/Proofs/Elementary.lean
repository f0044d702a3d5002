import SqlScope.Proofs.Governs

set_option autoImplicit false

namespace SqlScope

open SqlScope.Action

variable {α : Type} {l : Law} {x : RawCursor → Prop}

def Call.used? : Call → Option RawCursor
  | .execute q _ _ => some q
  | .fetch q => some q
  | .scroll q _ => some q
  | _ => none

-- What a law asks of the changes that work on an open connection makes. The work is on certain cursors only.
structure Law.AllowsWork (l : Law) (x : RawCursor → Prop) : Prop where
  call : ∀ made fault, (∀ q, made.used? = some q → x q) → l.Kept (note (.call made fault))
  debug : ∀ channel text, l.Kept (debug channel text)
  fresh : l.Kept fresh
  connection : ∀ (c : RawConnection) (f : RawConnectionState → RawConnectionState),
    (∀ t, (f t).cursorsOpened = t.cursorsOpened) → l.Kept (c.update f)
  proxy : ∀ (p : Proxy) (f : ProxyState → ProxyState), l.Kept (p.update f)
  pool : ∀ f : PoolState → PoolState, l.Kept (Pool.update f)
  statement : ∀ (t : Statement) (f : StatementState → StatementState),
    (∀ s, (f s).closed = s.closed) → l.Kept (t.update f)
  rowCursor : ∀ (r : RowCursor) (s : RowCursorState), l.Kept (r.put s)

structure Law.AllowsOpening (l : Law) : Prop where
  call : ∀ made fault, made.used? = none → l.Kept (note (.call made fault))
  debug : ∀ channel text, l.Kept (debug channel text)
  fresh : l.Kept fresh
  pool : ∀ f : PoolState → PoolState, l.Kept (Pool.update f)
  session : ∀ (s : Session) (f : SessionState → SessionState), l.Kept (s.update f)
  opening : l.Kept (modify fun w => { w with opened := w.opened + 1 } : Action Unit)

structure Law.AllowsScopes (l : Law) (x : RawCursor → Prop) : Prop extends l.AllowsWork x where
  warn : ∀ channel text, l.Kept (warn channel text)
  session : ∀ (s : Session) (f : SessionState → SessionState), l.Kept (s.update f)
  opening : l.Kept (modify fun w => { w with opened := w.opened + 1 } : Action Unit)
  savepoint : l.Kept (modify fun w => { w with savepoints := w.savepoints + 1 } : Action Unit)

theorem Law.AllowsScopes.allowsOpening (allows : l.AllowsScopes x) : l.AllowsOpening where
  call made fault free := allows.call made fault fun q used => by rw [free] at used; cases used
  debug := allows.debug
  fresh := allows.fresh
  pool := allows.pool
  session := allows.session
  opening := allows.opening

theorem RawConnection.mark_closed_cursors (t : RawConnectionState) : (markClosed t).cursorsOpened = t.cursorsOpened := by
  unfold markClosed
  split <;> rfl

theorem Held.callee_kept (name : String) (h : Held) : l.Kept (h.callee name) := by
  cases h with
  | lent c => exact kept_pure c
  | value v => exact kept_throw _

theorem Connection.callee_kept (c : Connection) (name : String) {f : RawConnection → Action α}
    (kept : ∀ d, l.Kept (f d)) : l.Kept (c.held >>= fun h => h.callee name >>= f) :=
  kept_bind c.held_kept fun h => kept_bind (h.callee_kept name) kept

section

variable (allows : l.AllowsWork x)

include allows

theorem attempt_allowed {made : Call} (own : ∀ q, made.used? = some q → x q) (due : Option Fault) :
    l.Kept (attempt made due) := by
  cases due with
  | none => exact allows.call made none own
  | some f => exact kept_bind (allows.call made (some f) own) fun _ => kept_throw f.raised

theorem attempt_allowed_free {made : Call} (free : made.used? = none) (due : Option Fault) :
    l.Kept (attempt made due) :=
  attempt_allowed allows (fun q used => by rw [free] at used; cases used) due

theorem attempt_allowed_own {made : Call} {q : RawCursor} (used : made.used? = some q) (own : x q)
    (due : Option Fault) : l.Kept (attempt made due) :=
  attempt_allowed allows (fun r same => by rw [used] at same; cases same; exact own) due

namespace RawConnection

theorem open_cursor_allowed (c : RawConnection)
    (opens : l.Kept (c.update fun s => { s with cursorsOpened := s.cursorsOpened + 1 })) : l.Kept c.openCursor := by
  apply kept_bind c.state_kept
  intro s
  refine kept_bind (allows.connection c _ fun _ => rfl) fun _ => ?_
  refine kept_bind (attempt_allowed_free allows rfl _) fun _ => ?_
  exact kept_bind opens fun _ => kept_pure _

theorem commit_allowed (c : RawConnection) : l.Kept c.commit := by
  apply kept_bind c.state_kept
  intro s
  exact kept_bind (allows.connection c _ fun _ => rfl) fun _ => attempt_allowed_free allows rfl _

theorem rollback_allowed (c : RawConnection) : l.Kept c.rollback := by
  apply kept_bind c.state_kept
  intro s
  exact kept_bind (allows.connection c _ fun _ => rfl) fun _ => attempt_allowed_free allows rfl _

theorem close_allowed (c : RawConnection) : l.Kept c.close := by
  apply kept_bind c.state_kept
  intro s
  refine kept_bind (allows.connection c _ fun _ => rfl) fun _ => ?_
  exact kept_bind (attempt_allowed_free allows rfl _) fun _ => allows.connection c _ mark_closed_cursors

theorem assign_allowed (c : RawConnection) (name : String) (value : Value) (reading : Reading Value) :
    l.Kept (c.assign name value reading) := by
  apply kept_bind c.state_kept
  intro s
  refine kept_bind (allows.connection c _ fun _ => rfl) fun _ => ?_
  exact kept_bind (attempt_allowed_free allows rfl _) fun _ => allows.connection c _ fun _ => rfl

end RawConnection

namespace RawCursor

variable {q : RawCursor}

theorem update_allowed (q : RawCursor) (f : RawCursorState → RawCursorState) : l.Kept (q.update f) :=
  allows.connection q.connection _ fun _ => rfl

theorem execute_allowed (own : x q) (sql : String) (parameters : Option (List Value)) :
    l.Kept (q.execute sql parameters) := by
  apply kept_bind q.connection.state_kept
  intro s
  refine kept_bind (allows.connection q.connection _ fun _ => rfl) fun _ => ?_
  exact kept_bind (update_allowed allows q _) fun _ => attempt_allowed_own allows rfl own _

theorem fetch_allowed (own : x q) : l.Kept q.fetch := by
  apply kept_bind q.state_kept
  intro s
  refine kept_bind (update_allowed allows q _) fun _ => kept_bind (attempt_allowed_own allows rfl own _) fun _ => ?_
  cases s.result.rows[s.position]? with
  | none => exact kept_pure none
  | some values => exact kept_bind (update_allowed allows q _) fun _ => kept_pure _

theorem scroll_allowed (own : x q) (position : Int) : l.Kept (q.scroll position) := by
  apply kept_bind q.state_kept
  intro s
  refine kept_bind (update_allowed allows q _) fun _ => ?_
  exact kept_bind (attempt_allowed_own allows rfl own _) fun _ => update_allowed allows q _

theorem close_allowed (q : RawCursor) : l.Kept q.close := by
  apply kept_bind q.connection.state_kept
  intro s
  exact kept_bind (allows.connection q.connection _ fun _ => rfl) fun _ => attempt_allowed_free allows rfl _

end RawCursor

namespace Proxy

theorem give_back_allowed (p : Proxy) : l.Kept p.giveBack := by
  apply kept_bind p.state_kept
  intro s
  cases s.attributes.get? "_pool" with
  | some v => exact kept_throw _
  | none =>
      apply kept_bind p.held_kept
      intro h
      refine kept_get_bind fun w holds => ?_
      exact kept_bind (allows.pool _) (fun _ => attempt_allowed_free allows rfl _) w holds

theorem close_allowed (p : Proxy) : l.Kept p.close := by
  apply kept_bind p.state_kept
  intro s
  by_cases released : s.released.isTruthy
  · rw [if_pos released]
    exact kept_pure ()
  · rw [if_neg released]
    refine kept_bind (allows.proxy p _) fun _ => ?_
    exact kept_bind (give_back_allowed allows p) fun _ => allows.debug _ _

end Proxy

namespace Connection

theorem open_cursor_allowed (c : Connection)
    (opens : ∀ d : RawConnection, l.Kept (d.update fun s => { s with cursorsOpened := s.cursorsOpened + 1 })) :
    l.Kept c.openCursor :=
  c.callee_kept "cursor" fun d => RawConnection.open_cursor_allowed allows d (opens d)

theorem commit_allowed (c : Connection) : l.Kept c.commit :=
  c.callee_kept "commit" (RawConnection.commit_allowed allows)

theorem rollback_allowed (c : Connection) : l.Kept c.rollback :=
  c.callee_kept "rollback" (RawConnection.rollback_allowed allows)

theorem close_allowed (c : Connection) : l.Kept c.close := by
  cases c with
  | direct c => exact RawConnection.close_allowed allows c
  | pooled p => exact Proxy.close_allowed allows p

theorem assign_allowed (c : Connection) (name : String) (value : Value) (reading : Reading Value) :
    l.Kept (c.assign name value reading) := by
  cases c with
  | direct c => exact RawConnection.assign_allowed allows c name value reading
  | pooled p =>
      change l.Kept (p.assign name value reading)
      unfold Proxy.assign
      by_cases released : name = "_released"
      · rw [if_pos released]
        exact allows.proxy p _
      · rw [if_neg released]
        by_cases own : isOwn name
        · rw [if_pos own]
          exact allows.proxy p _
        · rw [if_neg own]
          apply kept_bind p.held_kept
          intro h
          exact kept_bind (h.callee_kept name) fun d => RawConnection.assign_allowed allows d name value reading

theorem switch_to_manual_allowed (c : Connection) : l.Kept c.switchToManual := by
  apply kept_bind (c.read_or_kept "autocommit" .null)
  intro v
  split
  · exact assign_allowed allows c _ _ _
  · exact kept_pure ()

end Connection

namespace Statement

variable {t : Statement}

theorem allows_queues (t : Statement) : l.Queues t where
  bind _ := allows.statement t _ fun _ => rfl
  queue _ := allows.statement t _ fun _ => rfl

theorem execute_allowed (own : x t.cursor) (values : List Value) : l.Kept (t.execute values) :=
  kept_bind (allows.debug _ _) fun _ => kept_wrapping _ _ (RawCursor.execute_allowed allows own _ _)

theorem query_allowed (own : x t.cursor) : l.Kept t.query := by
  apply kept_bind t.parameters_kept
  intro values
  refine kept_bind (execute_allowed allows own values) fun _ => kept_bind t.cursor.description_kept fun d => ?_
  exact kept_bind (kept_of_except _) fun _ => kept_bind allows.fresh fun _ => kept_pure _

theorem run_update_allowed (own : x t.cursor) : l.Kept t.runUpdate :=
  kept_bind t.parameters_kept fun values => kept_bind (execute_allowed allows own values) fun _ => t.count_kept

theorem execute_all_allowed (own : x t.cursor) (entries : List (List Value)) : l.Kept (t.executeAll entries) := by
  induction entries with
  | nil => exact kept_pure []
  | cons entry rest ih =>
      apply kept_bind (execute_allowed allows own entry)
      intro _
      exact kept_bind t.count_kept fun n => kept_bind ih fun ns => kept_pure (n :: ns)

theorem run_batch_allowed (own : x t.cursor) : l.Kept t.runBatch :=
  kept_bind t.state_kept fun _ =>
    kept_bind (allows.statement t _ fun _ => rfl) fun _ => execute_all_allowed allows own _

theorem close_allowed (marks : l.Kept (t.update fun s => { s with closed := true })) : l.Kept t.close := by
  apply kept_bind t.state_kept
  intro s
  by_cases closed : s.closed
  · rw [if_pos closed]
    exact kept_pure ()
  · rw [if_neg closed]
    exact kept_bind marks fun _ => RawCursor.close_allowed allows t.cursor

end Statement

namespace RowCursor

variable {r : RowCursor}

theorem allows_moves (own : x r.cursor) : l.Moves r where
  fetch := RawCursor.fetch_allowed allows own
  scroll := RawCursor.scroll_allowed allows own
  put := allows.rowCursor r
  debug := allows.debug

theorem close_allowed (r : RowCursor) : l.Kept r.close := by
  apply kept_bind r.state_kept
  intro s
  by_cases closed : s.closed
  · rw [if_pos closed]
    exact kept_pure ()
  · rw [if_neg closed]
    exact kept_bind (allows.rowCursor r _) fun _ => RawCursor.close_allowed allows r.cursor

end RowCursor

end

section

variable (allows : l.AllowsOpening)

include allows

theorem attempt_opening_allowed {made : Call} (free : made.used? = none) (due : Option Fault) : l.Kept (attempt made due) := by
  cases due with
  | none => exact allows.call made none free
  | some f => exact kept_bind (allows.call made (some f) free) fun _ => kept_throw f.raised

theorem open_next_allowed {call : Call} (free : call.used? = none) : l.Kept (openNext call) := by
  refine kept_get_bind fun w holds => ?_
  have step : l.Kept (attempt call (w.connections.get w.opened).openFault >>= fun _ => pure ⟨w.opened⟩ : Action RawConnection) :=
    kept_bind (attempt_opening_allowed allows free _) fun _ => kept_pure _
  exact kept_bind allows.opening (fun _ => step) w holds

namespace Source

theorem borrow_kept : l.Kept borrow := by
  have borrows : l.Kept Pool.borrow := by
    refine kept_get_bind fun w holds => ?_
    refine kept_bind (allows.pool _) (fun _ => ?_) w holds
    cases w.pool.borrowFaults.due with
    | none => exact open_next_allowed allows rfl
    | some f => exact attempt_opening_allowed allows rfl (some f)
  refine kept_bind (kept_on_ordinary borrows fun _ => kept_throw _) fun _ => ?_
  exact kept_bind (allows.debug _ _) fun _ => kept_bind allows.fresh fun _ => kept_pure _

theorem connect_kept (s : Settings) : l.Kept (connect s) := by
  unfold connect
  by_cases named : s.url.isTruthy
  · rw [if_pos named]
    apply kept_bind (kept_of_except _)
    intro options
    refine kept_bind (kept_on_ordinary ?_ fun _ => kept_throw _) fun _ => ?_
    · exact kept_bind (kept_of_except _) fun _ => open_next_allowed allows rfl
    · exact kept_bind (allows.debug _ _) fun _ => kept_pure _
  · rw [if_neg named]
    exact kept_throw _

theorem create_kept (source : Source) : l.Kept source.create := by
  cases source with
  | plain => exact kept_bind (open_next_allowed allows rfl) fun _ => kept_pure _
  | pool => exact borrow_kept allows
  | settings s => exact connect_kept allows s

end Source

namespace Session

theorem active_kept (s : Session) : l.Kept s.active? := by
  apply kept_bind (state_kept s)
  intro t
  cases t.binding with
  | none => exact kept_pure none
  | some c =>
      refine kept_on_ordinary ?_ fun f => ?_
      · exact kept_bind (c.read_or_kept _ _) fun _ => kept_pure _
      · exact kept_bind (allows.debug _ _) fun _ => kept_pure none

theorem acquire_kept (s : Session) : l.Kept s.acquire := by
  have discards : l.Kept s.discard := by
    apply kept_bind (state_kept s)
    intro t
    by_cases bound : t.binding.isSome
    · rw [if_pos bound]
      exact kept_bind (allows.debug _ _) fun _ => allows.session s _
    · rw [if_neg bound]
      exact kept_pure ()
  refine kept_bind discards fun _ => kept_bind (Source.create_kept allows s.source) fun c => ?_
  exact kept_bind (allows.session s _) fun _ => kept_bind (allows.debug _ _) fun _ => kept_pure c

theorem entry_kept (s : Session) : l.Kept s.entry := by
  apply kept_bind (active_kept allows s)
  intro found
  cases found with
  | some c => exact kept_pure c
  | none => exact acquire_kept allows s

end Session

end

section

variable (allows : l.AllowsScopes x)

include allows

theorem close_after_failure_allowed {close : Action Unit} (kept : l.Kept close) (what : String) :
    l.Kept (closeAfterFailure close what) :=
  kept_close_after_failure kept allows.warn what

namespace Savepoint

theorem request_allowed (v : Value) : l.Kept (request v) := by
  unfold request
  split
  · exact kept_pure none
  · exact kept_pure none
  · exact kept_pure none
  · refine kept_get_bind fun w holds => ?_
    exact kept_bind (f := fun _ => pure (some (anonymous w.savepoints))) allows.savepoint (fun _ => kept_pure _) w holds
  · split
    · exact kept_pure _
    · exact kept_throw _
  · exact kept_throw _

end Savepoint

namespace Session

theorem let_go_allowed (s : Session) (c : Connection) : l.Kept (s.letGo c) := by
  apply kept_bind (state_kept s)
  intro t
  by_cases bound : t.binding = some c
  · rw [if_pos bound]
    exact kept_bind (allows.session s _) fun _ => kept_pure true
  · rw [if_neg bound]
    exact kept_pure false

theorem release_allowed (s : Session) (c : Connection) : l.Kept (s.release c) := by
  apply kept_bind (let_go_allowed allows s c)
  intro bound
  cases bound with
  | true =>
      exact kept_bind (kept_wrapping _ _ (Connection.close_allowed allows.toAllowsWork c)) fun _ => allows.debug _ _
  | false => exact kept_pure ()

theorem release_after_failure_allowed (s : Session) (c : Connection) : l.Kept (s.releaseAfterFailure c) := by
  apply kept_bind (let_go_allowed allows s c)
  intro bound
  cases bound with
  | true => exact close_after_failure_allowed allows (Connection.close_allowed allows.toAllowsWork c) _
  | false => exact kept_pure ()

theorem commit_write_allowed (s : Session) (c : Connection) : l.Kept (s.commitWrite c) := by
  apply kept_bind (state_kept s)
  intro t
  by_cases inside : t.inTransaction
  · rw [if_pos inside]
    exact kept_pure ()
  · rw [if_neg inside]
    exact kept_wrapping _ _ (Connection.commit_allowed allows.toAllowsWork c)

theorem undo_write_allowed (s : Session) (c : Connection) : l.Kept (s.undoWrite c) := by
  apply kept_bind (state_kept s)
  intro t
  by_cases inside : t.inTransaction
  · rw [if_pos inside]
    exact kept_pure ()
  · rw [if_neg inside]
    exact kept_on_ordinary (Connection.rollback_allowed allows.toAllowsWork c) fun _ => allows.warn _ _

end Session

end

end SqlScope
