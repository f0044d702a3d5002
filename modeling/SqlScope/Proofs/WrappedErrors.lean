import SqlScope.Session.Reading
import SqlScope.Proofs.StatementFaults

set_option autoImplicit false

namespace SqlScope

open SqlScope.Action

variable {α β : Type} {f : Silent} {x : RawCursor → Prop} {Q : Failure → Prop} {u w w' : World}

-- What it takes to make a connection is there; the rest is up to the driver.
def Source.Serves : Source → Prop
  | plain => True
  | pool => True
  | settings s => s.url.isTruthy = true ∧ ∃ options arguments, s.options = .ok options ∧ s.arguments options = .ok arguments

namespace Source

theorem fails_only_open_next (call : Call) : FailsOnly f x Q (openNext call) := by
  intro w ready
  let w₁ := { w with opened := w.opened + 1 }
  have opens : (w.connections.get w.opened).openFault = none := (ready.connections w.opened).opens
  have same : openNext call w = (attempt call none >>= fun _ => pure ⟨w.opened⟩) w₁ := by
    rw [← opens]
    rfl
  have onward : Proceeds f x w w₁ := proceeds_still ready (fun _ => rfl) ready.borrows ready.returns (grew_same rfl)
  exact fails_since_congr same (fails_since_of_only (fails_only_bind (fails_only_note _) fun _ => fails_only_pure _) onward)

theorem fails_only_borrow : FailsOnly f x Layered borrow := by
  have takes : FailsOnly f x Loose Pool.borrow := by
    intro w ready
    let w₁ := { w with pool := { w.pool with borrowFaults := w.pool.borrowFaults.tail } }
    have spent : Proceeds f x w w₁ :=
      proceeds_still ready (fun _ => rfl) (ordinary_tail ready.borrows) ready.returns (grew_same rfl)
    cases due : w.pool.borrowFaults.due with
    | none => exact fails_since_congr (borrow_undisturbed due) (fails_since_of_only (fails_only_open_next .borrow) spent)
    | some g =>
        have ordinary := ordinary_due ready.borrows due
        exact fails_since_congr (borrow_refused due) (fails_since_of_only (fails_only_refuse .borrow ordinary) spent)
  refine fails_only_bind (fails_only_on_ordinary takes (fun _ loose => loose)
      (converts_failures_wrap .connectionSource rfl _)) fun raw => ?_
  exact fails_only_bind (fails_only_note _) fun _ => fails_only_bind fails_only_fresh fun _ => fails_only_pure _

theorem fails_only_create {source : Source} (serves : source.Serves) :
    FailsOnly f x Layered source.create := by
  cases source with
  | plain => exact fails_only_bind (fails_only_open_next _) fun _ => fails_only_pure _
  | pool => exact fails_only_borrow
  | settings s =>
      obtain ⟨truthy, options, arguments, sound, usable⟩ := serves
      change FailsOnly f x _ (connect s)
      unfold connect
      rw [if_pos truthy, sound]
      refine fails_only_bind_gives (P := (· = options)) (fails_only_pure options) (gives_pure rfl) fun chosen same => ?_
      rw [same]
      have opens : FailsOnly f x Loose (ofExcept (s.arguments options) >>= fun arguments =>
          openNext (.connect s.url arguments)) := by
        rw [usable]
        exact fails_only_bind (fails_only_pure arguments) fun _ => fails_only_open_next _
      have connects := fails_only_on_ordinary opens (fun _ loose => loose)
        (converts_failures_wrap .connectionSource rfl ("Cannot connect to " ++ s.url.plain))
      exact fails_only_bind connects fun _ => fails_only_bind (fails_only_note _) fun _ => fails_only_pure _

end Source

namespace Session

theorem fails_only_state (s : Session) : FailsOnly f x Q s.state := fails_only_look _

theorem fails_only_update (s : Session) (h : SessionState → SessionState) : FailsOnly f x Q (s.update h) :=
  fails_only_aside (fun _ => rfl) (fun _ => rfl) (fun _ => rfl)

theorem fails_only_active (s : Session) : FailsOnly f x Q s.active? := by
  refine fails_only_bind s.fails_only_state fun t => ?_
  split
  · exact fails_only_pure none
  · rename_i c _
    have reads : FailsOnly f x Loose (c.readOr "closed" (.bool false) >>= fun closed =>
        pure (if closed.isTruthy then none else some c)) :=
      fails_only_bind (c.fails_only_read_or "closed" (.bool false)) fun _ => fails_only_pure _
    exact fails_only_on_ordinary reads (fun _ loose => loose)
      (converts_failures_quiet fun _ => fails_only_bind (fails_only_note _) fun _ => fails_only_pure none)

theorem fails_only_discard (s : Session) : FailsOnly f x Q s.discard := by
  refine fails_only_bind s.fails_only_state fun t => ?_
  split
  · exact fails_only_bind (fails_only_note _) fun _ => s.fails_only_update _
  · exact fails_only_pure ()

theorem fails_only_acquire {s : Session} (serves : s.source.Serves) : FailsOnly f x Layered s.acquire :=
  fails_only_bind s.fails_only_discard fun _ => fails_only_bind (Source.fails_only_create serves) fun _ =>
    fails_only_bind (s.fails_only_update _) fun _ => fails_only_bind (fails_only_note _) fun _ => fails_only_pure _

theorem fails_only_let_go (s : Session) (c : Connection) : FailsOnly f x Q (s.letGo c) := by
  refine fails_only_bind s.fails_only_state fun t => ?_
  split
  · exact fails_only_bind (s.fails_only_update _) fun _ => fails_only_pure true
  · exact fails_only_pure false

theorem fails_only_release (s : Session) (c : Connection) : FailsOnly f x Layered (s.release c) := by
  refine fails_only_bind (s.fails_only_let_go c) fun bound => ?_
  cases bound with
  | true => exact fails_only_bind (fails_only_wrapping rfl _ c.fails_only_close) fun _ => fails_only_note _
  | false => exact fails_only_pure ()

theorem fails_only_release_after_failure (s : Session) (c : Connection) : FailsOnly f x Q (s.releaseAfterFailure c) := by
  refine fails_only_bind (s.fails_only_let_go c) fun bound => ?_
  cases bound with
  | true => exact fails_only_close_after_failure _ c.fails_only_close
  | false => exact fails_only_pure ()

theorem fails_only_holding {s : Session} (serves : s.source.Serves) {body : Connection → Action α}
    (works : ∀ c, FailsOnly f x (LetOut f) (body c)) : FailsOnly f x (LetOut f) (s.holding body) := by
  refine fails_only_bind s.fails_only_active fun bound => ?_
  cases bound with
  | some c => exact works c
  | none =>
      refine fails_only_bind (fails_only_let_out (fails_only_acquire serves)) fun c => ?_
      refine fails_only_outcome_bind (works c) (fun v => ?_) ?_
      · exact fails_only_bind (fails_only_let_out (s.fails_only_release c)) fun _ => fails_only_pure v
      · exact converts_failures_then (fun _ => s.fails_only_release_after_failure c) (converts_failures_throw fun _ holds => holds)

theorem fails_only_transact {s : Session} (serves : s.source.Serves) {op : Connection → Action α} (savepoint : Value)
    (operates : ∀ c, FailsOnly f x (LetOut f) (op c)) : FailsOnly f x (LetOut f) (s.transact op savepoint) := by
  refine fails_only_bind s.fails_only_state fun t => ?_
  split
  · exact fails_only_refused (Or.inl rfl) .nested
  · refine fails_only_holding serves fun c => fails_only_bind (s.fails_only_update _) fun _ => ?_
    exact fails_only_ensuring (s.fails_only_update _) (c.fails_only_transact savepoint (operates c))

theorem fails_only_write {s : Session} (serves : s.source.Serves) {body : Connection → Action α}
    (works : ∀ c, FailsOnly f x (LetOut f) (body c)) : FailsOnly f x (LetOut f) (s.write body) := by
  have undoes : ∀ c, FailsOnly f x (LetOut f) (s.undoWrite c) := fun c => by
    refine fails_only_bind s.fails_only_state fun t => ?_
    split
    · exact fails_only_pure ()
    · exact fails_only_on_ordinary c.fails_only_rollback (fun _ loose => loose) (converts_failures_quiet fun _ => fails_only_note _)
  have commits : ∀ c, FailsOnly f x (LetOut f) (s.commitWrite c) := fun c => by
    refine fails_only_bind s.fails_only_state fun t => ?_
    split
    · exact fails_only_pure ()
    · exact fails_only_let_out (fails_only_wrapping rfl _ c.fails_only_commit)
  refine fails_only_holding serves fun c => fails_only_outcome_bind (works c) (fun v => ?_) ?_
  · exact fails_only_bind (commits c) fun _ => fails_only_pure v
  · exact converts_failures_then (fun _ => undoes c) (converts_failures_throw fun _ holds => holds)

theorem fails_only_page {s : Session} (serves : s.source.Serves) (sql : String) {bind : Binder}
    {columns : List Column → Action Unit} (offset maxRows : Int) {g : Row → Action α}
    (binds : ∀ t : Statement, FailsOnly f (· = t.cursor) (LetOut f) (bind t))
    (shows : ∀ cs, FailsOnly f (fun _ => False) (LetOut f) (columns cs))
    (visits : ∀ row, FailsOnly f (fun _ => False) (LetOut f) (g row)) :
    FailsOnly f x (LetOut f) (s.page sql bind columns offset maxRows g) := by
  rw [page_eq_with_results]
  refine fails_only_holding serves fun c => c.fails_only_with_results sql binds fun r => ?_
  refine fails_only_bind (fails_only_narrow (fun _ absurd => absurd.elim) (shows r.columns)) fun _ => ?_
  exact RowCursor.fails_only_walk (x := (· = r.cursor)) rfl offset maxRows visits

theorem fails_only_records {s : Session} (serves : s.source.Serves) (sql : String) {bind : Binder} (offset maxRows : Int)
    (binds : ∀ t : Statement, FailsOnly f (· = t.cursor) (LetOut f) (bind t)) :
    FailsOnly f x (LetOut f) (s.records sql bind offset maxRows) := by
  refine fails_only_page serves sql offset maxRows binds (fun _ => fails_only_pure ()) fun row => ?_
  cases unusable : row.toMap with
  | ok es => exact fails_only_pure es
  | error g => exact fails_only_refused (Or.inr (Or.inr (.labels unusable))) (.labels unusable)

end Session

inductive Operation : Type → Type 1 where
  | query {α : Type} (sql : String) (bind : Binder) (consumer : RowCursor → Action α) : Operation α
  | update (sql : String) (bind : Binder) (consumer : Int → Action Unit) : Operation Int
  | batch (sql : String) (given : Option (List Given)) (consumer : List Int → Action Unit) : Operation (List Int)
  | scan (sql : String) (bind : Binder) (columns : List Column → Action Unit) (offset maxRows : Int)
      (visitor : Row → Action Unit) : Operation Unit
  | records (sql : String) (bind : Binder) (offset maxRows : Int) : Operation (List (Entries Label Value))
  | first (sql : String) (bind : Binder) : Operation (Option (Entries Label Value))
  | transact {α : Type} (op : Connection → Action α) (savepoint : Value) : Operation α

namespace Operation

def run (s : Session) {α : Type} : Operation α → Action α
  | query sql bind consumer => s.withResults sql bind consumer
  | update sql bind consumer => s.runUpdate sql bind consumer
  | batch sql given consumer => s.runBatch sql given consumer
  | scan sql bind columns offset maxRows visitor => s.scan sql bind columns offset maxRows visitor
  | records sql bind offset maxRows => s.records sql bind offset maxRows
  | first sql bind => s.firstRecord sql bind
  | transact op savepoint => s.transact op savepoint

-- The callbacks raise nothing of their own: they let out what the layer lets out. Binders and consumers work
-- on the cursor that they are given, the other callbacks on none of those that are open.
def Passes (f : Silent) {α : Type} : Operation α → Prop
  | query _ bind consumer =>
    (∀ t : Statement, FailsOnly f (· = t.cursor) (LetOut f) (bind t)) ∧
      ∀ r : RowCursor, FailsOnly f (· = r.cursor) (LetOut f) (consumer r)
  | update _ bind consumer =>
    (∀ t : Statement, FailsOnly f (· = t.cursor) (LetOut f) (bind t)) ∧
      ∀ n, FailsOnly f (fun _ => False) (LetOut f) (consumer n)
  | batch _ _ consumer => ∀ ns, FailsOnly f (fun _ => False) (LetOut f) (consumer ns)
  | scan _ bind columns _ _ visitor =>
    (∀ t : Statement, FailsOnly f (· = t.cursor) (LetOut f) (bind t)) ∧
      (∀ cs, FailsOnly f (fun _ => False) (LetOut f) (columns cs)) ∧
      ∀ row, FailsOnly f (fun _ => False) (LetOut f) (visitor row)
  | records _ bind _ _ => ∀ t : Statement, FailsOnly f (· = t.cursor) (LetOut f) (bind t)
  | first _ bind => ∀ t : Statement, FailsOnly f (· = t.cursor) (LetOut f) (bind t)
  | transact op _ => ∀ c, FailsOnly f (fun _ => False) (LetOut f) (op c)

theorem run_fails_only {s : Session} (serves : s.source.Serves) {o : Operation α} (passes : o.Passes f) :
    FailsOnly f (fun _ => False) (LetOut f) (o.run s) := by
  cases o with
  | query sql bind consumer =>
      exact s.fails_only_holding serves fun c => c.fails_only_with_results sql passes.1 passes.2
  | update sql bind consumer =>
      refine fails_only_bind (s.fails_only_write serves fun c => c.fails_only_run_update sql passes.1) fun n => ?_
      exact fails_only_bind (passes.2 n) fun _ => fails_only_pure n
  | batch sql given consumer =>
      refine fails_only_bind (s.fails_only_write serves fun c => c.fails_only_run_batch sql given) fun ns => ?_
      exact fails_only_bind (passes ns) fun _ => fails_only_pure ns
  | scan sql bind columns offset maxRows visitor =>
      have pages := s.fails_only_page (x := fun _ => False) serves sql offset maxRows passes.1 passes.2.1 passes.2.2
      exact fails_only_bind pages fun _ => fails_only_pure ()
  | records sql bind offset maxRows => exact s.fails_only_records serves sql offset maxRows passes
  | first sql bind => exact fails_only_bind (s.fails_only_records serves sql 0 1 passes) fun _ => fails_only_pure _
  | transact op savepoint => exact s.fails_only_transact serves savepoint passes

end Operation

-- Every failure that an operation lets out has its origin in its chain of causes, and is one of the layer's
-- own unless it is a fault of reading a description, a row count or how to scroll, or a refusal.
theorem driver_errors_wrapped_unless_read (s : Session) (serves : s.source.Serves) (o : Operation α)
    (passes : o.Passes f) (ready : Ready f (fun _ => False) w) :
    (o.run s).Ends w (fun _ _ => True) fun e w' =>
      (e.isLayer = true ∨ f.results e.fault ∨ Refusal e.fault) ∧ ∃ g ∈ e.fault :: e.causes, Origin f w w' g :=
  ends_mono (Operation.run_fails_only serves passes w ready) (fun _ _ _ => trivial) fun _ _ failed =>
    ⟨failed.1, failed.2.2⟩

theorem default_within (f : Silent) : (default : RawConnectionState).Within f where
  opens := rfl
  cursorCalls _ member := by cases member
  commits _ member := by cases member
  rollbacks _ member := by cases member
  closes _ member := by cases member
  assigns _ member := by cases member
  cursorCloses _ member := by cases member
  attributes name g raises := by
    change (if "closed" == name then some (.gives (Value.bool false)) else none) = some (Reading.raises g) at raises
    split at raises <;> cases raises
  results _ member := by cases member
  cursors i := opened_within (default_result_within f)

-- A driver that cannot say how many rows an update changed: its own error leaves the call as it is.
theorem row_count_error_escapes :
    let gone := Kind.driver.fault "gone"
    let f : Silent := ⟨fun _ => False, (· = gone), fun _ raises => raises.elim False.elim fun same => same ▸ rfl⟩
    let unreadable : Result := { (default : Result) with rowCount := .raises gone }
    let w := World.start [{ (default : RawConnectionState) with results := [unreadable] }] default 0
    let s : Session := ⟨0, .plain⟩
    let o : Operation Int := .update "UPDATE t SET a = 1" (fun _ => pure ()) fun _ => pure ()
    (∃ w', o.run s w = .error gone.raised w') ∧ gone.raised.isLayer = false ∧
      (o.run s).Ends w (fun _ _ => True) fun e w' =>
        (e.isLayer = true ∨ f.results e.fault ∨ Refusal e.fault) ∧ ∃ g ∈ e.fault :: e.causes, Origin f w w' g := by
  intro gone f unreadable w s o
  have passes : o.Passes f := ⟨fun _ => fails_only_pure (), fun _ => fails_only_pure ()⟩
  have raises : unreadable.Within f :=
    { default_result_within f with rowCount := fun g raises => by cases raises; rfl }
  have ready : Ready f (fun _ => False) w :=
    { connections := fun i => by
        cases i with
        | zero => exact { default_within f with results := fun r member => List.mem_singleton.mp member ▸ raises }
        | succ i => exact default_within f
      borrows := fun _ member => by cases member
      returns := fun _ member => by cases member
      mine := fun _ absurd => absurd.elim }
  exact ⟨⟨_, rfl⟩, rfl, driver_errors_wrapped_unless_read s trivial o passes ready⟩

end SqlScope
