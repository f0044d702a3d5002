import SqlScope.Paging
import SqlScope.Proofs.DriverFaults

set_option autoImplicit false

namespace SqlScope

open SqlScope.Action

variable {α β : Type} {f : Silent} {x : RawCursor → Prop} {Q Q' : Failure → Prop} {u w w' : World}

theorem fails_only_lacking (typeName name : String) : FailsOnly f x Loose (throw (Failure.lacking typeName name) : Action α) :=
  fun _ ready => fails_since_throw (proceeds_refl ready) rfl (blamed_raised (.missing _))

theorem Held.fails_only_callee (h : Held) (name : String) : FailsOnly f x Loose (h.callee name) := by
  cases h with
  | lent k => exact fails_only_pure k
  | value v => exact fails_only_lacking v.typeName name

theorem Held.fails_only_read (h : Held) (name : String) : FailsOnly f x Loose (h.read name) :=
  fails_only_bind (h.fails_only_callee name) fun k => k.fails_only_read name

theorem Pool.fails_only_give_back (h : Held) : FailsOnly f x Loose (Pool.giveBack h) := by
  intro w ready
  let w₁ := { w with pool := { w.pool with giveBackFaults := w.pool.giveBackFaults.tail } }
  have same : Pool.giveBack h w = attempt (.giveBack h) w.pool.giveBackFaults.due w₁ := rfl
  have spent : Proceeds f x w w₁ :=
    proceeds_still ready (fun _ => rfl) ready.borrows (ordinary_tail ready.returns) (grew_same rfl)
  exact fails_since_congr same (fails_since_of_only (fails_only_attempt _ fun _ => ordinary_due ready.returns) spent)

namespace Proxy

theorem fails_only_state (p : Proxy) : FailsOnly f x Q p.state := fails_only_look _

theorem fails_only_held (p : Proxy) : FailsOnly f x Q p.held := fails_only_bind p.fails_only_state fun _ => fails_only_pure _

theorem fails_only_update (p : Proxy) (h : ProxyState → ProxyState) : FailsOnly f x Q (p.update h) :=
  fails_only_aside (fun _ => rfl) (fun _ => rfl) (fun _ => rfl)

theorem fails_only_closed (p : Proxy) : FailsOnly f x Loose p.closed := by
  refine fails_only_bind p.fails_only_state fun t => ?_
  dsimp only
  split
  · exact fails_only_pure _
  · refine fails_only_bind p.fails_only_held fun h => ?_
    exact fails_only_bind (fails_only_or_missing _ (h.fails_only_read "closed")) fun _ => fails_only_pure _

theorem fails_only_read (p : Proxy) (name : String) : FailsOnly f x Loose (p.read name) := by
  unfold read
  split
  · exact p.fails_only_closed
  · split
    · exact fails_only_bind p.fails_only_held fun _ => fails_only_pure _
    · split
      · exact fails_only_bind p.fails_only_state fun _ => fails_only_pure _
      · refine fails_only_bind p.fails_only_state fun t => ?_
        split
        · exact fails_only_pure _
        · exact fails_only_bind p.fails_only_held fun h => h.fails_only_read name

theorem fails_only_give_back (p : Proxy) : FailsOnly f x Loose p.giveBack := by
  refine fails_only_bind p.fails_only_state fun t => ?_
  split
  · exact fails_only_lacking _ _
  · exact fails_only_bind p.fails_only_held fun h => Pool.fails_only_give_back h

theorem fails_only_close (p : Proxy) : FailsOnly f x Loose p.close := by
  refine fails_only_bind p.fails_only_state fun t => ?_
  split
  · exact fails_only_pure ()
  · exact fails_only_bind (p.fails_only_update _) fun _ => fails_only_bind p.fails_only_give_back fun _ => fails_only_note _

end Proxy

namespace Connection

theorem fails_only_held (c : Connection) : FailsOnly f x Q c.held := by
  cases c with
  | direct k => exact fails_only_pure _
  | pooled p => exact p.fails_only_held

theorem fails_only_callee (c : Connection) (name : String) {g : RawConnection → Action α}
    (rest : ∀ k, FailsOnly f x Loose (g k)) : FailsOnly f x Loose (c.held >>= fun h => h.callee name >>= g) :=
  fails_only_bind c.fails_only_held fun h => fails_only_bind (h.fails_only_callee name) rest

theorem fails_only_open_cursor (c : Connection) : FailsOnly f x Loose c.openCursor :=
  c.fails_only_callee "cursor" RawConnection.fails_only_open_cursor

theorem fails_only_commit (c : Connection) : FailsOnly f x Loose c.commit :=
  c.fails_only_callee "commit" RawConnection.fails_only_commit

theorem fails_only_rollback (c : Connection) : FailsOnly f x Loose c.rollback :=
  c.fails_only_callee "rollback" RawConnection.fails_only_rollback

theorem fails_only_close (c : Connection) : FailsOnly f x Loose c.close := by
  cases c with
  | direct k => exact k.fails_only_close
  | pooled p => exact p.fails_only_close

theorem fails_only_read_or (c : Connection) (name : String) (fallback : Value) : FailsOnly f x Loose (c.readOr name fallback) := by
  refine fails_only_or_missing fallback ?_
  cases c with
  | direct k => exact k.fails_only_read name
  | pooled p => exact p.fails_only_read name

theorem fails_only_assign (c : Connection) (name : String) (v : Value) :
    FailsOnly f x Loose (c.assign name v (.gives v)) := by
  cases c with
  | direct k => exact k.fails_only_assign name v
  | pooled p =>
      change FailsOnly f x Loose (p.assign name v (.gives v))
      unfold Proxy.assign
      split
      · exact p.fails_only_update _
      · split
        · exact p.fails_only_update _
        · exact fails_only_bind p.fails_only_held fun h => fails_only_bind (h.fails_only_callee name) fun k => k.fails_only_assign name v

theorem fails_only_switch_to_manual (c : Connection) : FailsOnly f x Loose c.switchToManual := by
  refine fails_only_bind (c.fails_only_read_or "autocommit" .null) fun v => ?_
  split
  · exact c.fails_only_assign "autocommit" (.bool false)
  · exact fails_only_pure ()

theorem open_cursor_new (c : Connection) : GivesNew id c.openCursor := by
  intro w q w' run
  obtain ⟨h, w₁, held, run⟩ := ok_of_bind run
  obtain ⟨k, w₂, callee, run⟩ := ok_of_bind run
  rcases connection_held c w with lent | ⟨v, value⟩
  · rw [lent] at held
    cases held
    cases callee
    exact RawConnection.open_cursor_new run
  · rw [value] at held
    cases held
    cases callee

end Connection

namespace Statement

theorem fails_only_on (c : Connection) (sql : String) : FailsOnly f x Layered (Statement.on c sql) :=
  fails_only_bind (fails_only_wrapping rfl _ c.fails_only_open_cursor) fun _ => fails_only_bind fails_only_fresh fun _ => fails_only_pure _

theorem on_new (c : Connection) (sql : String) : GivesNew Statement.cursor (Statement.on c sql) := by
  intro w s w' run
  obtain ⟨q, w₁, opened, run⟩ := ok_of_bind run
  have opened := on_ordinary_ok (fun _ => gives_throw _) opened
  cases run
  exact c.open_cursor_new w q w₁ opened

theorem fails_only_state (s : Statement) : FailsOnly f x Q s.state := fails_only_look _

theorem fails_only_update (s : Statement) (h : StatementState → StatementState) : FailsOnly f x Q (s.update h) :=
  fails_only_aside (fun _ => rfl) (fun _ => rfl) (fun _ => rfl)

theorem fails_only_parameters (s : Statement) : FailsOnly f x Layered s.parameters := by
  refine fails_only_bind s.fails_only_state fun t => ?_
  dsimp only
  split
  · exact fails_only_pure _
  · exact fails_only_refused rfl (.unbound s _)

theorem fails_only_enqueue (s : Statement) : FailsOnly f x Layered s.enqueue :=
  fails_only_bind s.fails_only_parameters fun _ => s.fails_only_update _

theorem fails_only_execute {s : Statement} (own : x s.cursor) (values : List Value) :
    FailsOnly f x Layered (s.execute values) :=
  fails_only_bind (fails_only_note _) fun _ => fails_only_wrapping rfl _ (RawCursor.fails_only_execute own _ _)

theorem fails_only_count (s : Statement) : FailsOnly f x (LetOut f) s.count :=
  fails_only_bind s.cursor.fails_only_row_count fun _ => fails_only_pure _

theorem fails_only_of_description (description : Option (List ColumnEntry)) :
    FailsOnly f x (LetOut f) (ofExcept (Column.ofDescription description)) := by
  cases malformed : Column.ofDescription description with
  | ok columns => exact fails_only_pure columns
  | error g =>
      have refusal := Refusal.columns malformed
      exact fails_only_refused (Or.inr (Or.inr refusal)) refusal

theorem fails_only_query {s : Statement} (own : x s.cursor) : FailsOnly f x (LetOut f) s.query := by
  refine fails_only_bind (fails_only_let_out s.fails_only_parameters) fun values => ?_
  refine fails_only_bind (fails_only_let_out (fails_only_execute own values)) fun _ => ?_
  refine fails_only_bind s.cursor.fails_only_description fun d => ?_
  exact fails_only_bind (fails_only_of_description d) fun _ => fails_only_bind fails_only_fresh fun _ => fails_only_pure _

theorem fails_only_run_update {s : Statement} (own : x s.cursor) : FailsOnly f x (LetOut f) s.runUpdate :=
  fails_only_bind (fails_only_let_out s.fails_only_parameters) fun values =>
    fails_only_bind (fails_only_let_out (fails_only_execute own values)) fun _ => s.fails_only_count

theorem fails_only_execute_all {s : Statement} (own : x s.cursor) (entries : List (List Value)) :
    FailsOnly f x (LetOut f) (s.executeAll entries) := by
  induction entries with
  | nil => exact fails_only_pure []
  | cons entry rest ih =>
      refine fails_only_bind (fails_only_let_out (fails_only_execute own entry)) fun _ => ?_
      exact fails_only_bind s.fails_only_count fun n => fails_only_bind ih fun ns => fails_only_pure (n :: ns)

theorem fails_only_run_batch {s : Statement} (own : x s.cursor) : FailsOnly f x (LetOut f) s.runBatch :=
  fails_only_bind s.fails_only_state fun _ => fails_only_bind (s.fails_only_update _) fun _ => fails_only_execute_all own _

theorem fails_only_close (s : Statement) : FailsOnly f x Loose s.close := by
  refine fails_only_bind s.fails_only_state fun t => ?_
  split
  · exact fails_only_pure ()
  · exact fails_only_bind (s.fails_only_update _) fun _ => s.cursor.fails_only_close

end Statement

namespace Binder

theorem fails_only_set_from (s : Statement) (values : List Value) {i : Int} (positive : 1 ≤ i) :
    FailsOnly f x Q (setFrom s i values) := by
  induction values generalizing i with
  | nil => exact fails_only_pure ()
  | cons v rest ih =>
      refine fails_only_bind ?_ fun _ => ih (by omega)
      unfold Statement.set
      rw [if_neg (by omega)]
      exact s.fails_only_update _

theorem fails_only_of_given (given : Given) (s : Statement) : FailsOnly f x Q (ofGiven given s) := by
  cases given with
  | nothing => exact fails_only_pure ()
  | list values => exact fails_only_set_from s values (Int.le_refl 1)
  | text t => exact fails_only_set_from s _ (Int.le_refl 1)

theorem fails_only_of_entries (entries : List Given) (s : Statement) : FailsOnly f x Layered (ofEntries entries s) := by
  induction entries with
  | nil => exact fails_only_pure ()
  | cons entry rest ih =>
      refine fails_only_bind (fails_only_of_given entry s) fun _ => fails_only_bind s.fails_only_enqueue fun _ => ?_
      exact fails_only_bind (s.fails_only_update _) fun _ => ih

end Binder

namespace Connection

theorem fails_only_with_statement (c : Connection) (sql : String) {bind : Binder} {body : Statement → Action α}
    (binds : ∀ s : Statement, FailsOnly f (· = s.cursor) (LetOut f) (bind s))
    (works : ∀ s : Statement, FailsOnly f (· = s.cursor) (LetOut f) (body s)) :
    FailsOnly f x (LetOut f) (c.withStatement sql bind body) := by
  unfold withStatement Statement.openBound
  rw [bind_assoc]
  refine fails_only_opening (fails_only_let_out (Statement.fails_only_on c sql)) (Statement.on_new c sql) fun s => ?_
  refine fails_only_bind_gives (P := (· = s)) ?_ ?_ fun s' same => ?_
  · refine fails_only_outcome_bind (binds s) (fun _ => fails_only_pure s) ?_
    exact converts_failures_then (fun _ => fails_only_close_after_failure _ s.fails_only_close)
      (converts_failures_throw fun _ holds => holds)
  · refine gives_bind fun r => ?_
    cases r with
    | ok v => exact gives_pure rfl
    | error e => exact gives_bind fun _ => gives_throw e
  · subst same
    exact fails_only_releasing rfl "statement" s'.fails_only_close (fun _ => Or.inl) (works s')

end Connection

namespace RowCursor

theorem fails_only_state (r : RowCursor) : FailsOnly f x Q r.state := fails_only_look _

theorem fails_only_put (r : RowCursor) (t : RowCursorState) : FailsOnly f x Q (r.put t) :=
  fails_only_aside (fun _ => rfl) (fun _ => rfl) (fun _ => rfl)

theorem fails_only_set_row (r : RowCursor) (row : Option Row) : FailsOnly f x Q (r.setRow row) :=
  fails_only_bind r.fails_only_state fun _ => r.fails_only_put _

theorem fails_only_advance {r : RowCursor} (own : x r.cursor) : FailsOnly f x Layered r.advance :=
  fails_only_bind (fails_only_wrapping rfl _ (RawCursor.fails_only_fetch own)) fun _ =>
    fails_only_bind (r.fails_only_set_row _) fun _ => fails_only_pure _

theorem fails_only_next {r : RowCursor} (own : x r.cursor) : FailsOnly f x Layered r.next :=
  fails_only_bind (fails_only_advance own) fun _ => fails_only_pure _

theorem fails_only_scrolls (r : RowCursor) : FailsOnly f x (LetOut f) r.scrolls :=
  fails_only_bind (fails_only_or_missing _ r.cursor.fails_only_scroll_support) fun _ => fails_only_pure _

theorem fails_only_row_count (r : RowCursor) : FailsOnly f x (LetOut f) r.rowCount :=
  fails_only_bind (fails_only_or_missing _ r.cursor.fails_only_row_count) fun _ => fails_only_pure _

theorem fails_only_jump {r : RowCursor} (own : x r.cursor) (position : Int) :
    FailsOnly f x Layered (r.jump position) := by
  have scrolls : FailsOnly f x Loose (r.cursor.scroll (position - 1) >>= fun _ => pure true) :=
    fails_only_bind (RawCursor.fails_only_scroll own _) fun _ => fails_only_pure true
  refine fails_only_on_ordinary scrolls (fun _ loose => loose) fun e u w holds so blamed => ?_
  by_cases beyond : e.kind = .index
  · rw [if_pos beyond]
    exact so
  · rw [if_neg beyond]
    exact converts_failures_wrap .positioning rfl _ e u w holds so blamed

theorem fails_only_go_to {r : RowCursor} (own : x r.cursor) {position : Int} (positive : 1 ≤ position) :
    FailsOnly f x (LetOut f) (r.goTo position) := by
  unfold goTo
  rw [if_neg (by omega)]
  refine fails_only_bind r.fails_only_scrolls fun scrolls => ?_
  cases scrolls with
  | false => exact fails_only_refused (Or.inl rfl) .unscrollable
  | true =>
      refine fails_only_bind r.fails_only_row_count fun count => ?_
      by_cases beyond : 0 ≤ count ∧ count < position
      · rw [if_pos beyond]
        exact fails_only_pure false
      · rw [if_neg beyond]
        refine fails_only_bind (fails_only_let_out (fails_only_jump own position)) fun jumped => ?_
        cases jumped with
        | true => exact fails_only_let_out (fails_only_next own)
        | false => exact fails_only_pure false

theorem fails_only_close (r : RowCursor) : FailsOnly f x Loose r.close := by
  refine fails_only_bind r.fails_only_state fun t => ?_
  split
  · exact fails_only_pure ()
  · exact fails_only_bind (r.fails_only_put _) fun _ => r.cursor.fails_only_close

theorem fails_only_skip {r : RowCursor} (own : x r.cursor) (offset : Int) (n skipped : Nat) :
    FailsOnly f x Layered (r.skip offset n skipped) := by
  induction n generalizing skipped with
  | zero => exact fails_only_pure true
  | succ n ih =>
      refine fails_only_bind (fails_only_next own) fun more => ?_
      cases more with
      | true => exact ih (skipped + 1)
      | false => exact fails_only_bind (fails_only_note _) fun _ => fails_only_pure false

theorem fails_only_move_to {r : RowCursor} (own : x r.cursor) (offset : Int) : FailsOnly f x (LetOut f) (r.moveTo offset) := by
  unfold moveTo
  by_cases top : offset ≤ 1
  · rw [if_pos top]
    exact fails_only_pure true
  · rw [if_neg top]
    refine fails_only_bind r.fails_only_scrolls fun scrolls => ?_
    cases scrolls with
    | true => exact fails_only_go_to own (by omega)
    | false => exact fails_only_let_out (fails_only_skip own offset _ 0)

theorem advance_uses {r : RowCursor} {row : Row} (run : r.advance w = .ok (some row) w') :
    r.cursor.left w' < r.cursor.left w := by
  obtain ⟨values, w₁, fetched, run⟩ := ok_of_bind run
  have fetched := on_ordinary_ok (fun _ => gives_throw _) fetched
  cases values with
  | none => cases run
  | some values =>
      cases run
      have uses : r.cursor.left w₁ < r.cursor.left w := RawCursor.fetch_uses fetched
      exact uses

-- One step of a visit: a visitor leaves the cursor alone, so that fewer rows are left for the rest.
theorem fails_since_step {r : RowCursor} (own : x r.cursor) {g : Row → Action α} {k : Option Row → Action (List α)}
    {rest : Action (List α)} (visits : ∀ row, FailsOnly f (fun _ => False) (LetOut f) (g row))
    (ends : k none = pure []) (visit : ∀ row, k (some row) = (g row >>= fun a => rest >>= fun as => pure (a :: as)))
    (ready : Ready f x w)
    (onward : ∀ v, Ready f x v → r.cursor.left v < r.cursor.left w → rest.FailsOnlySince f x (LetOut f) v v) :
    (r.advance >>= k).FailsOnlySince f x (LetOut f) w w := by
  refine fails_since_bind (fails_only_let_out (fails_only_advance own) w ready) fun found w₁ ran so => ?_
  cases found with
  | none =>
      rw [ends]
      exact fails_since_of_only (fails_only_pure []) so
  | some row =>
      rw [visit]
      have uses := advance_uses ran
      have visited := visits row w₁ { so.ready with mine := fun _ absurd => absurd.elim }
      have narrow : ∀ {w₂}, Proceeds f (fun _ => False) w₁ w₂ → Proceeds f x w w₂ := fun later =>
        proceeds_trans so (proceeds_narrow (fun _ absurd => absurd.elim) so.ready later)
      refine ends_bind (ends_mono visited (fun a w₂ later => ?_) fun e w₂ failed => ?_)
      · have spared := later.spared r.cursor (so.ready.mine _ own) (fun absurd => absurd)
        have less := Nat.lt_of_le_of_lt spared uses
        refine fails_since_bind (fails_since_since (narrow later) (onward w₂ (narrow later).ready less)) fun _ _ _ so' => ?_
        exact fails_since_of_only (fails_only_pure _) so'
      · exact ⟨failed.1, narrow failed.2.1, blamed_before so.grew failed.2.2⟩

-- So the fuel of a visit is never used up.
theorem fails_since_visit {r : RowCursor} (own : x r.cursor) {g : Row → Action α}
    (visits : ∀ row, FailsOnly f (fun _ => False) (LetOut f) (g row)) (fuel : Nat) (limit : Option Nat)
    (ready : Ready f x w) (enough : r.cursor.left w < fuel) : (r.visit g fuel limit).FailsOnlySince f x (LetOut f) w w := by
  induction fuel generalizing limit w with
  | zero => omega
  | succ fuel ih =>
      rcases limit with - | - | n
      · exact fails_since_step own visits rfl (fun _ => rfl) ready fun v ready less => ih none ready (by omega)
      · exact fails_only_pure [] w ready
      · exact fails_since_step own visits rfl (fun _ => rfl) ready fun v ready less => ih (some n) ready (by omega)

theorem fails_only_walk {r : RowCursor} (own : x r.cursor) (offset maxRows : Int) {g : Row → Action α}
    (visits : ∀ row, FailsOnly f (fun _ => False) (LetOut f) (g row)) :
    FailsOnly f x (LetOut f) (r.walk offset maxRows g) := by
  refine fails_only_bind (fails_only_move_to own offset) fun there => ?_
  cases there with
  | false => exact fails_only_pure []
  | true =>
      intro w ready
      have patience : r.patience w = .ok (r.cursor.left w + 1 + w.rewinds) w := rfl
      exact fails_since_congr (bind_of_ok patience) (fails_since_visit own visits _ _ ready (by omega))

end RowCursor

namespace Connection

theorem fails_only_with_results (c : Connection) (sql : String) {bind : Binder} {consumer : RowCursor → Action α}
    (binds : ∀ s : Statement, FailsOnly f (· = s.cursor) (LetOut f) (bind s))
    (consumes : ∀ r : RowCursor, FailsOnly f (· = r.cursor) (LetOut f) (consumer r)) :
    FailsOnly f x (LetOut f) (c.withResults sql bind consumer) :=
  c.fails_only_with_statement sql binds fun s =>
    fails_only_bind_gives (s.fails_only_query rfl) s.query_gives fun r same =>
      fails_only_releasing rfl "result cursor" r.fails_only_close (fun _ => Or.inl) (same ▸ consumes r)

theorem fails_only_run_update (c : Connection) (sql : String) {bind : Binder}
    (binds : ∀ s : Statement, FailsOnly f (· = s.cursor) (LetOut f) (bind s)) :
    FailsOnly f x (LetOut f) (c.runUpdate sql bind) :=
  c.fails_only_with_statement sql binds fun _ => Statement.fails_only_run_update rfl

theorem fails_only_run_batch (c : Connection) (sql : String) (given : Option (List Given)) :
    FailsOnly f x (LetOut f) (c.runBatch sql given) :=
  c.fails_only_with_statement sql (fun s => fails_only_let_out (Binder.fails_only_of_entries _ s)) fun _ =>
    Statement.fails_only_run_batch rfl

end Connection

namespace Savepoint

theorem fails_only_request (v : Value) : FailsOnly f x (LetOut f) (request v) := by
  have refuses : ∀ v, FailsOnly f x (LetOut f) (request.refuse v) := fun v =>
    fails_only_refused (Or.inr (Or.inr (.savepoint v))) (.savepoint v)
  unfold request
  split
  · exact fails_only_pure none
  · exact fails_only_pure none
  · exact fails_only_pure none
  · exact fun _ ready => proceeds_still ready (fun _ => rfl) ready.borrows ready.returns (grew_same rfl)
  · split
    · exact fails_only_pure _
    · exact refuses _
  · exact refuses _

end Savepoint

namespace Transaction

theorem fails_only_run_sql (c : Connection) (sql : String) : FailsOnly f x Loose (runSql c sql) :=
  fails_only_opening c.fails_only_open_cursor c.open_cursor_new fun q =>
    fails_only_releasing rfl "cursor" q.fails_only_close (fun _ => loose_of_layered)
      (RawCursor.fails_only_execute (x := (· = q)) rfl sql none)

theorem fails_only_begin (c : Connection) (savepoint : Option String) : FailsOnly f x Loose (begin c savepoint) := by
  refine fails_only_bind c.fails_only_switch_to_manual fun _ => ?_
  cases savepoint with
  | none => exact fails_only_pure ()
  | some name => exact fails_only_run_sql c _

theorem fails_only_roll_back (c : Connection) (savepoint : Option String) : FailsOnly f x Loose (rollBack c savepoint) := by
  cases savepoint with
  | none => exact fails_only_bind c.fails_only_rollback fun _ => fails_only_note _
  | some name => exact fails_only_bind (fails_only_run_sql c _) fun _ => fails_only_note _

theorem fails_only_roll_back_after_failure (c : Connection) (savepoint : Option String) :
    FailsOnly f x Q (rollBackAfterFailure c savepoint) :=
  fails_only_on_ordinary (fails_only_roll_back c savepoint) (fun _ loose => loose) (converts_failures_quiet fun _ => fails_only_note _)

end Transaction

theorem Connection.fails_only_transact (c : Connection) {op : Connection → Action α} (savepoint : Value)
    (operates : FailsOnly f x (LetOut f) (op c)) : FailsOnly f x (LetOut f) (c.transact op savepoint) := by
  refine fails_only_bind (Savepoint.fails_only_request savepoint) fun name => ?_
  have begins := fails_only_on_ordinary (Transaction.fails_only_begin (f := f) (x := x) c name) (fun _ loose => loose)
    (converts_failures_wrap .transaction rfl "Cannot begin transaction")
  refine fails_only_bind (fails_only_let_out begins) fun _ => ?_
  have body : FailsOnly f x Loose (op c >>= fun v => c.commit >>= fun _ => pure v) :=
    fails_only_bind (fails_only_mono (fun _ => loose_of_let_out) operates) fun v =>
      fails_only_bind c.fails_only_commit fun _ => fails_only_pure v
  have concludes := fails_only_on_ordinary body (fun _ loose => loose) (converts_failures_then
    (fun _ => Transaction.fails_only_roll_back_after_failure c name)
    (converts_failures_rewrap .transaction rfl "Transaction rolled back"))
  exact fails_only_bind (fails_only_let_out concludes) fun v => fails_only_bind (fails_only_note _) fun _ => fails_only_pure v

end SqlScope
