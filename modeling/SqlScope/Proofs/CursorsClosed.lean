import SqlScope.Proofs.Custody

set_option autoImplicit false

namespace SqlScope

open SqlScope.Action

variable {α β : Type} {x : RawCursor → Prop} {kept : Nat → Prop} {w : World}

namespace Plan

def Steps (P : Stretch → Prop) {α : Type} : Plan α → Prop
  | step party a => ∀ w, P ⟨party, w, a.after w⟩
  | next x k => x.Steps P ∧ ∀ v, (k v).Steps P
  | under _ x => x.Steps P

theorem steps_stretches {P : Stretch → Prop} (handlers : ∀ u v, P ⟨.layer, u, v⟩) {p : Plan α} (steps : p.Steps P)
    (w : World) : ∀ s ∈ p.stretches w, P s := by
  induction p generalizing w with
  | step party a =>
      intro s member
      cases List.mem_singleton.mp member
      exact steps w
  | next p k ihp ihk =>
      intro s member
      cases ran : p.run w with
      | ok v u =>
          rw [stretches_next_of_ok ran] at member
          exact (List.mem_append.mp member).elim (ihp steps.1 w s) (ihk v (steps.2 v) u s)
      | error e u =>
          rw [stretches_next_of_error ran] at member
          exact ihp steps.1 w s member
  | under frame p ih =>
      intro s member
      cases ran : p.run w with
      | ok v u =>
          rw [stretches_under_of_ok ran] at member
          exact ih steps w s member
      | error e u =>
          rw [stretches_under_of_error ran] at member
          rcases List.mem_append.mp member with body | handler
          · exact ih steps w s body
          · cases List.mem_singleton.mp handler
            exact handlers _ _

def Inner (p : Plan α) : Prop := p.Steps fun s => s.party = .layer

theorem inner_stretches {p : Plan α} (inner : p.Inner) (w : World) : ∀ s ∈ p.stretches w, s.party = .layer :=
  steps_stretches (fun _ _ => rfl) inner w

theorem polite_of_layer {l : List Stretch} (alone : ∀ s ∈ l, s.party = .layer) : Polite kept l := by
  intro earlier s later split isClient
  have member : s ∈ l := by rw [split]; simp
  rw [alone s member] at isClient
  cases isClient

theorem keeps_custody_inner {p : Plan α} (inner : p.Inner) (keeps : p.KeepsCustody x) :
    (layer p.run).KeepsCustody x := fun kept w starts _ =>
  have alone := inner_stretches inner w
  in_custody_merge (keeps kept w starts (polite_of_layer alone)) alone

theorem keeps_custody_on_ordinary {a : Action α} {recover : Failure → Action α} (body : (layer a).KeepsCustody x)
    (handler : ∀ f, (layer (recover f)).KeepsCustody x) : (layer (onOrdinary a recover)).KeepsCustody x := by
  intro kept w starts polite
  have alone : ∀ {γ : Type} (b : Action γ) (u : World), ∀ s ∈ (layer b).stretches u, s.party = .layer :=
    fun b u => inner_stretches (p := layer b) (fun _ => rfl) u
  have first := body kept w starts (polite_of_layer (alone a w))
  change InCustody x kept w [⟨.layer, w, (onOrdinary a recover).after w⟩] ((onOrdinary a recover).after w)
  change InCustody x kept w [⟨.layer, w, a.after w⟩] (a.after w) at first
  cases ran : a w with
  | ok v u =>
      rw [after_of_ok ran] at first
      rw [after_of_ok (on_ordinary_of_ok ran)]
      exact first
  | error f u =>
      rw [after_of_error ran] at first
      rw [Action.after, on_ordinary_of_error ran]
      by_cases ordinary : f.isOrdinary
      · rw [if_pos ordinary]
        have late := handler f _ u (starts_after starts first) (polite_of_layer (alone (recover f) u))
        have both := in_custody_append starts.mine first (in_custody_mono (fun _ => Or.inl) late)
        exact in_custody_merge both fun s member => (List.mem_append.mp member).elim
          (fun early => by cases List.mem_singleton.mp early; rfl) (alone (recover f) u s)
      · rw [if_neg ordinary]
        exact first

theorem keeps_custody_results {r : RowCursor} {p : Plan α} (reads : p.KeepsCustody x) :
    (Stepwise.releasing (.results r) p).KeepsCustody x := by
  have closes : (attending x).Kept r.close := r.close_allowed (attending_allows_scopes x).toAllowsWork
  refine keeps_custody_next (keeps_custody_under reads fun _ => keeps_custody_layer ?_) fun v => keeps_custody_layer ?_
  · exact close_after_failure_allowed (attending_allows_scopes x) closes _
  · exact kept_bind (kept_wrapping _ _ closes) fun _ => kept_pure v

theorem keeps_custody_with_results (c : Connection) (sql : String) {bind : Statement → Plan Unit} {consumer : RowCursor → Plan α}
    (binds : ∀ t, (bind t).KeepsCustody (· = t.cursor)) (reads : ∀ r, (consumer r).KeepsCustody (· = r.cursor)) :
    (Stepwise.withResults c sql bind consumer).KeepsCustody fun _ => False := by
  refine keeps_custody_with_statement c sql binds fun t => keeps_custody_next_of ?_ fun w r w' ran => ?_
  · exact keeps_custody_layer (t.query_allowed (attending_allows_scopes (· = t.cursor)).toAllowsWork rfl)
  · have same : r.cursor = t.cursor := t.query_gives w r w' ran
    rw [← same]
    exact keeps_custody_results (reads r)

theorem keeps_custody_walk {r : RowCursor} (own : x r.cursor) (offset maxRows : Int) {f : Row → Plan α}
    (visits : ∀ row, (f row).KeepsCustody x) : (Stepwise.walk r offset maxRows f).KeepsCustody x :=
  have moves := RowCursor.allows_moves (attending_allows_scopes x).toAllowsWork own
  Stepwise.walk_closed (keeps_custody_closed x) offset maxRows (keeps_custody_layer (RowCursor.move_to_kept moves offset))
    (keeps_custody_layer r.patience_kept) (keeps_custody_layer (RowCursor.advance_kept moves)) visits

theorem keeps_custody_roll_back (c : Connection) (name : Option String) :
    (layer (Transaction.rollBackAfterFailure c name)).KeepsCustody fun _ => False := by
  have allows := attending_allows_scopes fun _ => False
  cases name with
  | none =>
      have rolls : (attending fun _ => False).Kept (Transaction.rollBack c none) :=
        kept_bind (c.rollback_allowed allows.toAllowsWork) fun _ => allows.debug _ _
      exact keeps_custody_layer (kept_on_ordinary rolls fun _ => allows.warn _ _)
  | some name =>
      let undo : Plan Unit := next (runSql c ("ROLLBACK TO SAVEPOINT " ++ name)) fun _ =>
        layer (debug .commands ("Rolled back to savepoint " ++ name))
      have run : undo.run = Transaction.rollBack c (some name) :=
        congrArg (· >>= fun _ => debug .commands ("Rolled back to savepoint " ++ name)) run_run_sql
      have inner : undo.Inner := ⟨⟨fun _ => rfl, fun _ => ⟨fun _ => rfl, fun _ _ => rfl⟩⟩, fun _ _ => rfl⟩
      have keeps : undo.KeepsCustody fun _ => False := keeps_custody_next (keeps_custody_run_sql c _) fun _ =>
        keeps_custody_layer (allows.debug _ _)
      have whole := keeps_custody_inner inner keeps
      rw [run] at whole
      exact keeps_custody_on_ordinary whole fun _ => keeps_custody_layer (allows.warn _ _)

theorem keeps_custody_begin (c : Connection) (name : Option String) : (begin c name).KeepsCustody fun _ => False := by
  refine keeps_custody_next (keeps_custody_layer (c.switch_to_manual_allowed (attending_allows_scopes _).toAllowsWork)) fun _ => ?_
  cases name with
  | none => exact keeps_custody_done ()
  | some name => exact keeps_custody_run_sql c _

theorem keeps_custody_transact (c : Connection) (op : Connection → Action α) (savepoint : Value) :
    (transact c op savepoint).KeepsCustody fun _ => False := by
  have allows := attending_allows_scopes fun _ => False
  refine keeps_custody_next (keeps_custody_layer (Savepoint.request_allowed allows savepoint)) fun name => ?_
  refine keeps_custody_next (keeps_custody_under (keeps_custody_begin c name) fun _ => keeps_custody_done ()) fun _ => ?_
  refine keeps_custody_next (keeps_custody_under ?_ fun e => ?_) fun v => ?_
  · exact keeps_custody_next (keeps_custody_client _) fun v =>
      keeps_custody_next (keeps_custody_layer (c.commit_allowed allows.toAllowsWork)) fun _ => keeps_custody_done v
  · dsimp only [Frame.cleanUp]
    split
    · exact keeps_custody_roll_back c name
    · exact keeps_custody_done ()
  · exact keeps_custody_next (keeps_custody_layer (allows.debug _ _)) fun _ => keeps_custody_done v

theorem keeps_custody_holding (s : Session) {body : Connection → Plan α} (works : ∀ c, (body c).KeepsCustody x) :
    (holding s body).KeepsCustody x := by
  have allows := attending_allows_scopes x
  refine keeps_custody_next (keeps_custody_layer (s.active_kept allows.allowsOpening)) fun found => ?_
  cases found with
  | some c => exact works c
  | none =>
      refine keeps_custody_next (keeps_custody_layer (s.acquire_kept allows.allowsOpening)) fun c => ?_
      refine keeps_custody_next (keeps_custody_under (works c) fun _ =>
        keeps_custody_layer (s.release_after_failure_allowed allows c)) fun v => ?_
      exact keeps_custody_next (keeps_custody_layer (s.release_allowed allows c)) fun _ => keeps_custody_done v

theorem keeps_custody_write (s : Session) {body : Connection → Plan α} (works : ∀ c, (body c).KeepsCustody x) :
    (write s body).KeepsCustody x := by
  have allows := attending_allows_scopes x
  refine keeps_custody_holding s fun c => ?_
  refine keeps_custody_next (keeps_custody_under (works c) fun _ => keeps_custody_layer (s.undo_write_allowed allows c)) fun v => ?_
  exact keeps_custody_next (keeps_custody_layer (s.commit_write_allowed allows c)) fun _ => keeps_custody_done v

theorem keeps_custody_scope (s : Session) (op : Connection → Action α) (savepoint : Value) :
    (scope s op savepoint).KeepsCustody fun _ => False := by
  have allows := attending_allows_scopes fun _ => False
  refine keeps_custody_next (keeps_custody_layer (state_kept s)) fun t => ?_
  by_cases inside : t.inTransaction
  · simp only [if_pos inside]
    exact keeps_custody_fail _
  · simp only [if_neg inside]
    refine keeps_custody_holding s fun c => keeps_custody_next (keeps_custody_layer (allows.session s _)) fun _ => ?_
    have leaves : (attending fun _ => False).Kept (s.setScope false) := allows.session s _
    refine keeps_custody_next (keeps_custody_under (keeps_custody_transact c op savepoint) fun _ => keeps_custody_layer leaves) fun v => ?_
    exact keeps_custody_next (keeps_custody_layer (allows.session s _)) fun _ => keeps_custody_done v

theorem keeps_custody_page (s : Session) (sql : String) (bind : Binder) {columns : List Column → Plan Unit}
    (heads : ∀ y : RawCursor → Prop, ∀ cs, (columns cs).KeepsCustody y) (offset maxRows : Int) {f : Row → Plan α}
    (visits : ∀ y : RawCursor → Prop, ∀ row, (f row).KeepsCustody y) :
    (page s sql bind columns offset maxRows f).KeepsCustody fun _ => False :=
  keeps_custody_holding s fun c => keeps_custody_with_results c sql (fun _ => keeps_custody_client _) fun r =>
    keeps_custody_next (heads _ r.columns) fun _ => keeps_custody_walk (x := (· = r.cursor)) rfl offset maxRows (visits _)

theorem keeps_custody_records (s : Session) (sql : String) (bind : Binder) (offset maxRows : Int) :
    (records s sql bind offset maxRows).KeepsCustody fun _ => False :=
  keeps_custody_page s sql bind (fun _ _ => keeps_custody_done ()) offset maxRows fun _ row =>
    keeps_custody_layer (kept_of_except row.toMap)

theorem keeps_custody_query (c : Connection) (sql : String) (bind : Binder) (consumer : RowCursor → Action α) :
    (Stepwise.withResults c sql (fun t => client (bind t)) fun r => client (consumer r) : Plan α).KeepsCustody fun _ => False :=
  keeps_custody_with_results c sql (fun _ => keeps_custody_client _) fun _ => keeps_custody_client _

theorem keeps_custody_update (c : Connection) (sql : String) (bind : Binder) :
    (Stepwise.withStatement c sql (fun t => client (bind t)) fun t => layer t.runUpdate : Plan Int).KeepsCustody fun _ => False :=
  keeps_custody_with_statement c sql (fun _ => keeps_custody_client _) fun t =>
    keeps_custody_layer (t.run_update_allowed (attending_allows_scopes (· = t.cursor)).toAllowsWork rfl)

theorem keeps_custody_batch (c : Connection) (sql : String) (given : Option (List Given)) :
    (Stepwise.withStatement c sql (fun t => layer (Binder.ofBatch given t)) fun t => layer t.runBatch :
      Plan (List Int)).KeepsCustody fun _ => False := by
  refine keeps_custody_with_statement c sql (fun t => keeps_custody_layer ?_) fun t => keeps_custody_layer ?_
  · exact Binder.of_batch_kept (Statement.allows_queues (attending_allows_scopes _).toAllowsWork t) given
  · exact t.run_batch_allowed (attending_allows_scopes (· = t.cursor)).toAllowsWork rfl

end Plan

theorem Operation.plan_keeps_custody (s : Session) (o : Operation α) : (o.plan s).KeepsCustody fun _ => False := by
  cases o with
  | query sql bind consumer =>
      exact Plan.keeps_custody_holding s fun c => Plan.keeps_custody_query c sql bind consumer
  | update sql bind consumer =>
      refine Plan.keeps_custody_next (Plan.keeps_custody_write s fun c => Plan.keeps_custody_update c sql bind) fun n => ?_
      exact Plan.keeps_custody_next (Plan.keeps_custody_client _) fun _ => Plan.keeps_custody_done n
  | batch sql given consumer =>
      refine Plan.keeps_custody_next (Plan.keeps_custody_write s fun c => Plan.keeps_custody_batch c sql given) fun ns => ?_
      exact Plan.keeps_custody_next (Plan.keeps_custody_client _) fun _ => Plan.keeps_custody_done ns
  | scan sql bind columns offset maxRows visitor =>
      refine Plan.keeps_custody_next (Plan.keeps_custody_page s sql bind ?_ offset maxRows ?_) fun _ => Plan.keeps_custody_done ()
      · exact fun _ _ => Plan.keeps_custody_client _
      · exact fun _ _ => Plan.keeps_custody_client _
  | records sql bind offset maxRows => exact Plan.keeps_custody_records s sql bind offset maxRows
  | first sql bind => exact Plan.keeps_custody_next (Plan.keeps_custody_records s sql bind 0 1) fun _ => Plan.keeps_custody_done _
  | transact op savepoint => exact Plan.keeps_custody_scope s op savepoint

theorem Task.plan_keeps_custody (t : Task α) : t.plan.KeepsCustody fun _ => False := by
  cases t with
  | query c sql bind consumer => exact Plan.keeps_custody_query c sql bind consumer
  | update c sql bind => exact Plan.keeps_custody_update c sql bind
  | batch c sql given => exact Plan.keeps_custody_batch c sql given
  | transact c op savepoint => exact Plan.keeps_custody_transact c op savepoint
  | hold s body => exact Plan.keeps_custody_holding s fun c => Plan.keeps_custody_client _
  | operate s o => exact o.plan_keeps_custody s

theorem Task.in_custody (t : Task α) (tidy : w.Tidy) (below : ∀ i, kept i → i < w.handles)
    (polite : Polite kept (t.plan.stretches w)) :
    InCustody (fun _ => False) kept w (t.plan.stretches w) (t.run.after w) := by
  rw [← t.plan_runs]
  exact t.plan_keeps_custody kept w ⟨tidy, below, fun _ absurd => absurd.elim⟩ polite

-- Of each stretch in which the layer opens a cursor, and of the rest of the run from there: the cursor is closed,
-- and after its last closing by the layer the layer does not work on it.
theorem opened_cursors_closed (t : Task α) {w : World} (tidy : w.Tidy)
    (polite : Polite (fun _ => False) (t.plan.stretches w)) :
    (t.run.after w).history = ((traceOf (t.plan.stretches w)).map Prod.snd).reverse ++ w.history ∧
      ∀ q, Safe q (t.plan.stretches w) := by
  have custody := t.in_custody tidy (fun _ absurd => absurd.elim) polite
  exact ⟨custody.history, custody.safe⟩

-- Clients that open no cursor and close no statement; they may read, and close the result cursor.
def Plan.Reads (p : Plan α) : Prop := p.Steps fun s => s.party = .client → Attends (fun _ => True) s.before s.later

theorem polite_of_reads {p : Plan α} (reads : p.Reads) (w : World) : Polite kept (p.stretches w) := by
  intro earlier s later split isClient
  have member : s ∈ p.stretches w := by rw [split]; simp
  exact civil_of_attends (Plan.steps_stretches (fun _ _ absurd => by cases absurd) reads w s member isClient)

-- The consumer closes the result cursor and is then interrupted; the driver fails to close the cursor, twice.
theorem interrupted_query_closes_cursor :
    let stuck := Kind.driver.fault "stuck"
    let w := World.start
      [{ (default : RawConnectionState) with
          results := [default]
          closeCursorFaults := [some stuck, some stuck] }] default 0
    let consumer : RowCursor → Action Unit := fun r => do
      closeAfterFailure r.close "result cursor"
      throw (Kind.interrupt.failure "")
    let t : Task Unit := .query (.direct ⟨0⟩) "SELECT 1" (fun _ => pure ()) consumer
    let q : RawCursor := ⟨⟨0⟩, 0⟩
    ¬ q.Opened w ∧ q.Opened (t.run.after w) ∧ ClosedLast q (traceOf (t.plan.stretches w)) := by
  intro stuck w consumer t q
  have tidy : w.Tidy := fun _ _ => rfl
  have allows := attending_allows_scopes fun _ => True
  have consumes : ∀ r, (attending fun _ => True).Kept (consumer r) := fun r =>
    kept_bind (close_after_failure_allowed allows (r.close_allowed allows.toAllowsWork) _) fun _ => kept_throw _
  have layer : ∀ {α : Type} (a : Action α), (Plan.layer a).Reads := fun _ _ absurd => by cases absurd
  have reads : t.plan.Reads :=
    ⟨layer _, fun _ => ⟨fun w _ => (attending _).refl w, fun _ =>
      ⟨⟨layer _, fun r => ⟨fun w _ => (consumes r w trivial).2, fun _ => layer _⟩⟩, fun _ => layer _⟩⟩⟩
  obtain ⟨_, safe⟩ := opened_cursors_closed t tidy (polite_of_reads reads w)
  have opened := safe q [] ⟨.layer, w, (Statement.on (.direct ⟨0⟩) "SELECT 1").after w⟩ _ rfl rfl
    ⟨Nat.lt_irrefl 0, Nat.zero_lt_one⟩
  exact ⟨Nat.lt_irrefl 0, Nat.zero_lt_one, opened⟩

end SqlScope
