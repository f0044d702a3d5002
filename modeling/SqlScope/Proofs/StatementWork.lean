import SqlScope.Proofs.Work

set_option autoImplicit false

namespace SqlScope

open SqlScope.Action

variable {α : Type} {P : Call → Prop} {c : RawConnection} {T : String → Prop}

-- What a law asks of binding values to a statement, and of queueing them.
structure Law.Binds (l : Law) (t : Statement) : Prop where
  bind : ∀ f : Entries Nat Value → Entries Nat Value, l.Kept (t.update fun s => { s with parameters := f s.parameters })

structure Law.Queues (l : Law) (t : Statement) : Prop extends l.Binds t where
  queue : ∀ entry, l.Kept (t.update fun s => { s with queue := s.queue ++ [entry] })

namespace Statement

def On (c : RawConnection) (T : String → Prop) (s : Statement) : Prop :=
  s.cursor.connection = c ∧ T s.sql

theorem on_own (s : Statement) : s.On s.cursor.connection (fun _ => True) := ⟨rfl, trivial⟩

theorem state_kept {l : Law} (s : Statement) : l.Kept s.state :=
  kept_bind kept_get fun _ => kept_pure _

theorem update_acts (s : Statement) (f : StatementState → StatementState) :
    (acting P).Kept (s.update f) :=
  kept_modify fun _ _ => ⟨trivial, fun _ => rfl, fun _ => rfl, rfl, Nat.le_refl _, fun _ => rfl, grew_same rfl⟩

theorem acts_queues (s : Statement) : (acting P).Queues s where
  bind _ := s.update_acts _
  queue _ := s.update_acts _

theorem set_kept {l : Law} {s : Statement} (binds : l.Binds s) (i : Int) (v : Value) : l.Kept (s.set i v) := by
  unfold set
  by_cases low : i < 1
  · rw [if_pos low]
    exact kept_throw _
  · rw [if_neg low]
    exact binds.bind fun es => es.insert i.toNat v

theorem clear_kept {l : Law} {s : Statement} (binds : l.Binds s) : l.Kept s.clear := binds.bind fun _ => []

theorem parameters_kept {l : Law} (s : Statement) : l.Kept s.parameters := by
  apply kept_bind s.state_kept
  intro t
  dsimp only
  cases Placeholders.missing t.parameters with
  | nil => exact kept_pure _
  | cons gap gaps => exact kept_throw _

theorem enqueue_kept {l : Law} {s : Statement} (queues : l.Queues s) : l.Kept s.enqueue :=
  kept_bind s.parameters_kept queues.queue

theorem execute_acts (s : Statement) (on : s.On c T) (values : List Value) :
    (acting (Call.Work c T)).Kept (s.execute values) :=
  kept_bind (debug_acts _ _) fun _ => kept_wrapping _ _ (s.cursor.execute_acts _ _ on)

theorem count_kept {l : Law} (s : Statement) : l.Kept s.count :=
  kept_bind s.cursor.row_count_kept fun _ => kept_pure _

theorem query_acts (s : Statement) (on : s.On c T) : (acting (Call.Work c T)).Kept s.query := by
  apply kept_bind s.parameters_kept
  intro values
  apply kept_bind (s.execute_acts on values)
  intro _
  apply kept_bind s.cursor.description_kept
  intro d
  exact kept_bind (kept_of_except _) fun _ => kept_bind fresh_acts fun _ => kept_pure _

theorem query_gives (s : Statement) : Gives (fun r : RowCursor => r.cursor = s.cursor) s.query := by
  refine gives_bind fun values => gives_bind fun _ => ?_
  exact gives_bind fun d => gives_bind fun columns => gives_bind fun i => gives_pure rfl

theorem run_update_acts (s : Statement) (on : s.On c T) :
    (acting (Call.Work c T)).Kept s.runUpdate :=
  kept_bind s.parameters_kept fun values => kept_bind (s.execute_acts on values) fun _ => s.count_kept

theorem execute_all_acts (s : Statement) (on : s.On c T) (entries : List (List Value)) :
    (acting (Call.Work c T)).Kept (s.executeAll entries) := by
  induction entries with
  | nil => exact kept_pure []
  | cons entry rest ih =>
      apply kept_bind (s.execute_acts on entry)
      intro _
      exact kept_bind s.count_kept fun n => kept_bind ih fun ns => kept_pure (n :: ns)

theorem run_batch_acts (s : Statement) (on : s.On c T) : (acting (Call.Work c T)).Kept s.runBatch :=
  kept_bind s.state_kept fun _ => kept_bind (s.update_acts _) fun _ => s.execute_all_acts on _

theorem close_acts (s : Statement) (on : s.On c T) : (acting (Call.Work c T)).Kept s.close := by
  apply kept_bind s.state_kept
  intro t
  by_cases closed : t.closed
  · rw [if_pos closed]
    exact kept_pure ()
  · rw [if_neg closed]
    exact kept_bind (s.update_acts _) fun _ => s.cursor.close_acts on.1

theorem on_acts (c : Connection) (sql : String) :
    (acting (Call.Work c.raw T)).Kept (Statement.on c sql) :=
  kept_bind (kept_wrapping _ _ (c.open_cursor_acts rfl)) fun _ => kept_bind fresh_acts fun _ => kept_pure _

theorem on_gives (c : Connection) {sql : String} (text : T sql) :
    Gives (On c.raw T) (Statement.on c sql) := by
  refine gives_bind_of (gives_wrapping _ _ c.open_cursor_gives) fun q on => ?_
  exact gives_bind fun i => gives_pure ⟨on, text⟩

end Statement

namespace Binder

variable {l : Law} {s : Statement}

theorem set_from_kept (binds : l.Binds s) (i : Int) (values : List Value) : l.Kept (setFrom s i values) := by
  induction values generalizing i with
  | nil => exact kept_pure ()
  | cons v rest ih => exact kept_bind (Statement.set_kept binds i v) fun _ => ih (i + 1)

theorem of_given_kept (binds : l.Binds s) (given : Given) : l.Kept (ofGiven given s) := by
  cases given with
  | nothing => exact kept_pure ()
  | list values => exact set_from_kept binds 1 values
  | text t => exact set_from_kept binds 1 _

theorem of_entries_kept (queues : l.Queues s) (batch : List Given) : l.Kept (ofEntries batch s) := by
  induction batch with
  | nil => exact kept_pure ()
  | cons given rest ih =>
      apply kept_bind (of_given_kept queues.toBinds given)
      intro _
      exact kept_bind (Statement.enqueue_kept queues) fun _ => kept_bind (Statement.clear_kept queues.toBinds) fun _ => ih

theorem of_batch_kept (queues : l.Queues s) (batch : Option (List Given)) : l.Kept (ofBatch batch s) :=
  of_entries_kept queues _

end Binder

structure Law.Moves (l : Law) (r : RowCursor) : Prop where
  fetch : l.Kept r.cursor.fetch
  scroll : ∀ position, l.Kept (r.cursor.scroll position)
  put : ∀ t, l.Kept (r.put t)
  debug : ∀ channel text, l.Kept (debug channel text)

namespace RowCursor

variable {l : Law} {r : RowCursor}

theorem state_kept (r : RowCursor) : l.Kept r.state :=
  kept_bind kept_get fun _ => kept_pure _

theorem scrolls_kept (r : RowCursor) : l.Kept r.scrolls :=
  kept_bind (or_missing_kept _ r.cursor.scroll_support_kept) fun _ => kept_pure _

theorem row_count_kept (r : RowCursor) : l.Kept r.rowCount :=
  kept_bind (or_missing_kept _ r.cursor.row_count_kept) fun _ => kept_pure _

theorem advance_kept (moves : l.Moves r) : l.Kept r.advance := by
  apply kept_bind (kept_wrapping _ _ moves.fetch)
  intro values
  exact kept_bind (kept_bind r.state_kept fun _ => moves.put _) fun _ => kept_pure _

theorem next_kept (moves : l.Moves r) : l.Kept r.next :=
  kept_bind (advance_kept moves) fun _ => kept_pure _

theorem jump_kept (moves : l.Moves r) (position : Int) : l.Kept (r.jump position) := by
  refine kept_on_ordinary ?_ fun f => ?_
  · exact kept_bind (moves.scroll _) fun _ => kept_pure true
  · by_cases beyond : f.kind = .index
    · rw [if_pos beyond]
      exact kept_pure false
    · rw [if_neg beyond]
      exact kept_throw _

theorem go_to_kept (moves : l.Moves r) (position : Int) : l.Kept (r.goTo position) := by
  unfold goTo
  by_cases low : position < 1
  · rw [if_pos low]
    exact kept_throw _
  · rw [if_neg low]
    apply kept_bind r.scrolls_kept
    intro scrolls
    cases scrolls with
    | false => exact kept_throw _
    | true =>
        apply kept_bind r.row_count_kept
        intro count
        by_cases beyond : 0 ≤ count ∧ count < position
        · rw [if_pos beyond]
          exact kept_pure false
        · rw [if_neg beyond]
          apply kept_bind (jump_kept moves position)
          intro jumped
          cases jumped with
          | true => exact next_kept moves
          | false => exact kept_pure false

theorem skip_kept (moves : l.Moves r) (offset : Int) (n skipped : Nat) : l.Kept (r.skip offset n skipped) := by
  induction n generalizing skipped with
  | zero => exact kept_pure true
  | succ n ih =>
      apply kept_bind (next_kept moves)
      intro more
      cases more with
      | true => exact ih (skipped + 1)
      | false => exact kept_bind (moves.debug _ _) fun _ => kept_pure false

theorem move_to_kept (moves : l.Moves r) (offset : Int) : l.Kept (r.moveTo offset) := by
  unfold moveTo
  by_cases top : offset ≤ 1
  · rw [if_pos top]
    exact kept_pure true
  · rw [if_neg top]
    apply kept_bind r.scrolls_kept
    intro scrolls
    cases scrolls with
    | true => exact go_to_kept moves _
    | false => exact skip_kept moves offset _ 0

theorem put_acts (r : RowCursor) (t : RowCursorState) : (acting P).Kept (r.put t) :=
  kept_modify fun _ _ => ⟨trivial, fun _ => rfl, fun _ => rfl, rfl, Nat.le_refl _, fun _ => rfl, grew_same rfl⟩

theorem work_moves (on : r.cursor.connection = c) : (acting (Call.Work c T)).Moves r where
  fetch := r.cursor.fetch_acts on
  scroll _ := r.cursor.scroll_acts _ on
  put := r.put_acts
  debug := debug_acts

theorem patience_kept (r : RowCursor) : l.Kept r.patience :=
  kept_bind r.cursor.rows_left_kept fun _ => kept_bind kept_get fun _ => kept_pure _

theorem close_acts (r : RowCursor) (on : r.cursor.connection = c) :
    (acting (Call.Work c T)).Kept r.close := by
  apply kept_bind r.state_kept
  intro t
  by_cases closed : t.closed
  · rw [if_pos closed]
    exact kept_pure ()
  · rw [if_neg closed]
    exact kept_bind (r.put_acts _) fun _ => r.cursor.close_acts on

end RowCursor

namespace Savepoint

theorem refuse_acts (v : Value) : (acting P).Kept (request.refuse v) := kept_throw _

theorem request_acts (v : Value) : (acting P).Kept (request v) := by
  unfold request
  split
  · exact kept_pure none
  · exact kept_pure none
  · exact kept_pure none
  · exact kept_get_bind fun _ _ => ⟨trivial, fun _ => rfl, fun _ => rfl, rfl, Nat.le_refl _, fun _ => rfl,
      grew_same rfl⟩
  · split
    · exact kept_pure _
    · exact refuse_acts _
  · exact refuse_acts _

end Savepoint

namespace Transaction

theorem run_sql_acts (c : Connection) (sql : String) :
    (acting (Call.Work c.raw (· = sql))).Kept (runSql c sql) := by
  refine kept_bind_gives (c.open_cursor_acts rfl) c.open_cursor_gives fun q on => ?_
  exact releasing_acts _ _ (q.close_acts on) (q.execute_acts sql none ⟨on, rfl⟩)

theorem begin_acts (c : Connection) (savepoint : Option String) :
    (acting (Call.On c.raw)).Kept (begin c savepoint) := by
  refine kept_bind (c.switch_to_manual_acts ⟨rfl, rfl⟩) fun _ => ?_
  cases savepoint with
  | none => exact kept_pure ()
  | some name => exact acting_mono Call.work_on (run_sql_acts c _)

theorem roll_back_acts (c : Connection) (savepoint : Option String) :
    (acting (Call.On c.raw)).Kept (rollBack c savepoint) := by
  cases savepoint with
  | none => exact kept_bind (c.rollback_acts ⟨rfl, rfl⟩) fun _ => debug_acts _ _
  | some name => exact kept_bind (acting_mono Call.work_on (run_sql_acts c _)) fun _ => debug_acts _ _

theorem roll_back_after_failure_acts (c : Connection) (savepoint : Option String) :
    (acting (Call.On c.raw)).Kept (rollBackAfterFailure c savepoint) :=
  kept_on_ordinary (roll_back_acts c savepoint) fun _ => warn_acts _ _

end Transaction

end SqlScope
