import SqlScope.Proofs.TransactionProtocol

set_option autoImplicit false

namespace SqlScope

open SqlScope.Action

variable {α β : Type} {l : Law} {w : World}

structure Law.Mirrors (l : Law) (a b : Action α) : Prop where
  kept : l.Kept a
  same : ∀ w, l.inv w → a w = b w

section

variable {a b : Action α}

theorem mirrors_refl (kept : l.Kept a) : l.Mirrors a a := ⟨kept, fun _ _ => rfl⟩

theorem mirrors_of_same (kept : l.Kept b) (same : ∀ w, l.inv w → a w = b w) : l.Mirrors a b := by
  refine ⟨fun w holds => ?_, same⟩
  rw [Action.after, same w holds]
  exact kept w holds

theorem mirrors_bind {f g : α → Action β} (first : l.Mirrors a b) (rest : ∀ v, l.Mirrors (f v) (g v)) :
    l.Mirrors (a >>= f) (b >>= g) := by
  refine ⟨kept_bind first.kept fun v => (rest v).kept, fun w holds => ?_⟩
  have same := first.same w holds
  cases ran : a w with
  | ok v u =>
      have holds' := (first.kept w holds).1
      rw [after_of_ok ran] at holds'
      rw [bind_of_ok ran, bind_of_ok (same.symm.trans ran)]
      exact (rest v).same u holds'
  | error e u => rw [bind_of_error ran, bind_of_error (same.symm.trans ran)]

theorem mirrors_outcome (mirrors : l.Mirrors a b) : l.Mirrors (outcome a) (outcome b) := by
  refine ⟨kept_outcome mirrors.kept, fun w holds => ?_⟩
  rw [outcome, outcome, mirrors.same w holds]

theorem mirrors_on_ordinary {recover recover' : Failure → Action α} (body : l.Mirrors a b)
    (handler : ∀ f, l.Mirrors (recover f) (recover' f)) : l.Mirrors (onOrdinary a recover) (onOrdinary b recover') := by
  refine mirrors_bind (mirrors_outcome body) fun r => ?_
  cases r with
  | ok v => exact mirrors_refl (kept_pure v)
  | error f =>
      dsimp only
      by_cases ordinary : f.isOrdinary
      · rw [if_pos ordinary, if_pos ordinary]
        exact handler f
      · rw [if_neg ordinary, if_neg ordinary]
        exact mirrors_refl (kept_throw f)

theorem mirrors_wrapping (kind : Kind) (message : String) (body : l.Mirrors a b) :
    l.Mirrors (wrapping kind message a) (wrapping kind message b) :=
  mirrors_on_ordinary body fun _ => mirrors_refl (kept_throw _)

theorem mirrors_or_missing (fallback : α) (read : l.Mirrors a b) : l.Mirrors (orMissing a fallback) (orMissing b fallback) := by
  refine mirrors_bind (mirrors_outcome read) fun r => mirrors_refl ?_
  cases r with
  | ok v => exact kept_pure v
  | error f =>
      dsimp only
      by_cases missing : f.kind = .attribute
      · rw [if_pos missing]
        exact kept_pure fallback
      · rw [if_neg missing]
        exact kept_throw f

theorem mirrors_bind_through {γ : Type} {g : α → γ} {f f' : γ → Action β} (first : l.Mirrors (g <$> a) (g <$> b))
    (rest : ∀ v, l.Mirrors (f v) (f' v)) : l.Mirrors (a >>= fun v => f (g v)) (b >>= fun v => f' (g v)) := by
  rw [← bind_map_left g a f, ← bind_map_left g b f']
  exact mirrors_bind first rest

end

def Call.pools : Call → Bool
  | .borrow => true
  | .giveBack _ => true
  | .closePool => true
  | .newPool _ _ _ _ => true
  | _ => false

theorem Call.on_apart {k : RawConnection} (call : Call) (on : Call.On k call) : call.pools = false := by
  cases call <;> simp_all [Call.On, raw?, closes, pools]

-- Not released, standing for its raw connection, and without attributes that are not its own.
structure Proxy.InPlace (p : Proxy) (w : World) : Prop where
  unreleased : (w.proxies.get p.index).released.isTruthy = false
  lends : (w.proxies.get p.index).attributes.get? "_connection" = none
  passes : ∀ name, isOwn name = false → (w.proxies.get p.index).attributes.get? name = none

structure Passed where
  name : String
  foreign : isOwn name = false
  other : name ∉ ["closed", "close", "raw_connection"]

namespace Passed

variable (x : Passed)

theorem not_closed : x.name ≠ "closed" := fun same => x.other (by simp [same])

theorem not_raw : x.name ≠ "raw_connection" := fun same => x.other (by simp [same])

theorem not_own {name : String} (own : isOwn name = true) : x.name ≠ name := fun same => by
  have foreign := x.foreign
  rw [same, own] at foreign
  cases foreign

end Passed

section

variable {p : Proxy}

theorem held_in_place (inPlace : p.InPlace w) : p.held w = .ok (.lent p.raw) w := by
  rw [proxy_held_ok, ProxyState.held, inPlace.lends]
  rfl

theorem read_in_place (x : Passed) (inPlace : p.InPlace w) : p.read x.name w = p.raw.read x.name w := by
  have apart : ¬ (x.name = "raw_connection" ∨ x.name = "_connection") :=
    not_or.mpr ⟨x.not_raw, x.not_own (by decide)⟩
  rw [Proxy.read, if_neg x.not_closed, if_neg apart, if_neg (x.not_own (by decide)), bind_of_ok (proxy_state_ok p w),
    inPlace.passes x.name x.foreign]
  exact bind_of_ok (held_in_place inPlace)

theorem assign_in_place (x : Passed) (value : Value) (reading : Reading Value) (inPlace : p.InPlace w) :
    p.assign x.name value reading w = p.raw.assign x.name value reading w := by
  have foreign : ¬ isOwn x.name = true := by simp [x.foreign]
  rw [Proxy.assign, if_neg (x.not_own (by decide)), if_neg foreign]
  exact bind_of_ok (held_in_place inPlace)

theorem closed_in_place (inPlace : p.InPlace w) :
    p.closed w = ((fun v : Value => .bool v.isTruthy) <$> orMissing (p.raw.read "closed") (.bool false)) w := by
  have unreleased : ¬ (w.proxies.get p.index).released.isTruthy = true := by simp [inPlace.unreleased]
  rw [Proxy.closed, bind_of_ok (proxy_state_ok p w)]
  change (if _ then _ else _ : Action Value) w = _
  rw [if_neg unreleased, bind_of_ok (held_in_place inPlace)]
  rfl

end

def Connection.told (c : Connection) (driver : String) (autocommit : Value) (closed : Bool) :
    Action (Entries String Value) := do
  let dsn ← c.dsn
  let more ← c.present ["server_version", "isolation_level", "encoding", "in_transaction"]
  pure ([("driver", .text driver), ("autocommit", autocommit), ("closed", .bool closed)] ++ dsn ++ more)

section

variable {p : Proxy} (inPlace : ∀ w, l.inv w → p.InPlace w)

include inPlace

theorem callee_mirrors (name : String) {f : RawConnection → Action α} (kept : l.Kept (f p.raw)) :
    l.Mirrors ((Connection.pooled p).held >>= fun h => h.callee name >>= f)
      ((Connection.direct p.raw).held >>= fun h => h.callee name >>= f) := by
  have reached : ∀ w, l.inv w → ((Connection.pooled p).held >>= fun h => h.callee name >>= f) w = f p.raw w :=
    fun w holds => bind_of_ok (held_in_place (inPlace w holds))
  exact mirrors_of_same kept reached

theorem read_or_mirrors (x : Passed) (fallback : Value) :
    l.Mirrors ((Connection.pooled p).readOr x.name fallback) ((Connection.direct p.raw).readOr x.name fallback) :=
  mirrors_or_missing fallback ⟨p.read_kept x.name, fun w holds => read_in_place x (inPlace w holds)⟩

theorem closed_mirrors :
    l.Mirrors (Value.isTruthy <$> (Connection.pooled p).readOr "closed" (.bool false))
      (Value.isTruthy <$> (Connection.direct p.raw).readOr "closed" (.bool false)) := by
  refine ⟨kept_bind (Connection.read_or_kept _ _ _) fun _ => kept_pure _, fun w holds => ?_⟩
  have closed := closed_in_place (inPlace w holds)
  cases there : (Connection.direct p.raw).readOr "closed" (.bool false) w with
  | ok v u =>
      have answered : p.read "closed" w = .ok (.bool v.isTruthy) u := closed.trans (map_of_ok there)
      have here : (Connection.pooled p).readOr "closed" (.bool false) w = .ok (.bool v.isTruthy) u :=
        or_missing_of_ok answered _
      rw [map_of_ok here, map_of_ok there, Value.isTruthy]
  | error e u =>
      have failed : p.read "closed" w = .error e u := closed.trans (map_of_error there)
      have here : (Connection.pooled p).readOr "closed" (.bool false) w = .error e u :=
        or_missing_of_other failed (or_missing_error there) _
      rw [map_of_error here, map_of_error there]

theorem driver_mirrors (bare : ∀ w, l.inv w → (w.connections.get p.raw.index).attributes.get? "raw_connection" = none) :
    l.Mirrors (Connection.pooled p).driver (Connection.direct p.raw).driver := by
  refine ⟨Connection.driver_kept _, fun w holds => ?_⟩
  have missing : (some <$> p.raw.read "raw_connection") w = .error (Kind.attribute.failure "raw_connection") w :=
    map_of_error (raw_read_of_missing (bare w holds))
  have absent : orMissing (some <$> p.raw.read "raw_connection") none w = .ok none w :=
    or_missing_of_error missing rfl none
  rw [Connection.driver, bind_of_ok (held_in_place (inPlace w holds)), Connection.driver, bind_of_ok absent]

theorem dsn_mirrors : l.Mirrors (Connection.pooled p).dsn (Connection.direct p.raw).dsn := by
  refine mirrors_bind (read_or_mirrors inPlace ⟨"dsn", by decide, by decide⟩ .null) fun v => mirrors_refl ?_
  cases v with
  | text s => exact kept_pure _
  | _ => exact kept_pure []

theorem present_mirrors (xs : List Passed) :
    l.Mirrors ((Connection.pooled p).present (xs.map (·.name))) ((Connection.direct p.raw).present (xs.map (·.name))) := by
  induction xs with
  | nil => exact mirrors_refl (kept_pure [])
  | cons x rest ih =>
      refine mirrors_bind (read_or_mirrors inPlace x .null) fun v => ?_
      exact mirrors_bind ih fun more => mirrors_refl (kept_pure _)

theorem told_mirrors (driver : String) (autocommit : Value) (closed : Bool) :
    l.Mirrors ((Connection.pooled p).told driver autocommit closed) ((Connection.direct p.raw).told driver autocommit closed) := by
  refine mirrors_bind (dsn_mirrors inPlace) fun dsn => ?_
  refine mirrors_bind (present_mirrors inPlace [⟨"server_version", by decide, by decide⟩,
    ⟨"isolation_level", by decide, by decide⟩, ⟨"encoding", by decide, by decide⟩,
    ⟨"in_transaction", by decide, by decide⟩]) fun more => ?_
  exact mirrors_refl (kept_pure _)

theorem report_mirrors (bare : ∀ w, l.inv w → (w.connections.get p.raw.index).attributes.get? "raw_connection" = none) :
    l.Mirrors (Connection.pooled p).report (Connection.direct p.raw).report := by
  refine mirrors_bind (driver_mirrors inPlace bare) fun driver => ?_
  refine mirrors_bind (read_or_mirrors inPlace ⟨"autocommit", by decide, by decide⟩ .null) fun autocommit => ?_
  exact mirrors_bind_through (closed_mirrors inPlace) (told_mirrors inPlace driver autocommit)

end

def Proxy.letting (p : Proxy) (P : Call → Prop) : Law where
  inv := p.InPlace
  rel := Grew fun call => call.pools = true → P call
  refl _ := grew_same rfl
  trans _ _ _ := grew_trans

section

variable {P : Call → Prop} {p : Proxy} {k : RawConnection}

theorem letting_of_acts {a : Action α} (acts : (acting (Call.On k)).Kept a) : (p.letting P).Kept a := by
  refine kept_weaken acts (fun _ _ => trivial) fun w w' inPlace moved => ⟨?_, ?_⟩
  · have same := moved.proxies p.index
    exact ⟨by rw [same]; exact inPlace.unreleased, by rw [same]; exact inPlace.lends, by rw [same]; exact inPlace.passes⟩
  · refine grew_mono (fun call on pools => ?_) moved.grew
    rw [Call.on_apart call on] at pools
    cases pools

theorem letting_of_work {T : String → Prop} {a : Action α} (acts : (acting (Call.Work k T)).Kept a) :
    (p.letting P).Kept a :=
  letting_of_acts (acting_mono Call.work_on acts)

theorem mirrors_releasing {a b : Action α} {close : Action Unit} (what : String) (kind : Kind)
    (closes : (acting (Call.On k)).Kept close) (body : (p.letting P).Mirrors a b) :
    (p.letting P).Mirrors (releasing close what kind a) (releasing close what kind b) := by
  refine mirrors_bind (mirrors_outcome body) fun r => mirrors_refl ?_
  cases r with
  | ok v => exact kept_bind (kept_wrapping _ _ (letting_of_acts closes)) fun _ => kept_pure v
  | error f => exact kept_bind (letting_of_acts (close_after_failure_acts closes what)) fun _ => kept_throw f

theorem assign_mirrors (x : Passed) (value : Value) (reading : Reading Value) :
    (p.letting P).Mirrors ((Connection.pooled p).assign x.name value reading)
      ((Connection.direct p.raw).assign x.name value reading) :=
  mirrors_of_same (letting_of_acts (p.raw.assign_acts x.not_closed value reading ⟨rfl, rfl⟩)) fun _ =>
    assign_in_place x value reading

theorem open_cursor_mirrors : (p.letting P).Mirrors (Connection.pooled p).openCursor (Connection.direct p.raw).openCursor :=
  callee_mirrors (fun _ => id) "cursor" (letting_of_acts (p.raw.open_cursor_acts ⟨rfl, rfl⟩))

theorem commit_mirrors : (p.letting P).Mirrors (Connection.pooled p).commit (Connection.direct p.raw).commit :=
  callee_mirrors (fun _ => id) "commit" (letting_of_acts (p.raw.commit_acts ⟨rfl, rfl⟩))

theorem rollback_mirrors : (p.letting P).Mirrors (Connection.pooled p).rollback (Connection.direct p.raw).rollback :=
  callee_mirrors (fun _ => id) "rollback" (letting_of_acts (p.raw.rollback_acts ⟨rfl, rfl⟩))

theorem switch_to_manual_mirrors :
    (p.letting P).Mirrors (Connection.pooled p).switchToManual (Connection.direct p.raw).switchToManual := by
  refine mirrors_bind (read_or_mirrors (fun _ => id) ⟨"autocommit", by decide, by decide⟩ .null) fun v => ?_
  split
  · exact assign_mirrors ⟨"autocommit", by decide, by decide⟩ _ _
  · exact mirrors_refl (kept_pure ())

theorem open_bound_mirrors {bind bind' : Binder} (sql : String) (binds : ∀ t, (p.letting P).Mirrors (bind t) (bind' t)) :
    (p.letting P).Mirrors (Statement.openBound (.pooled p) sql bind) (Statement.openBound (.direct p.raw) sql bind') := by
  refine mirrors_bind ?_ fun t => mirrors_bind (mirrors_outcome (binds t)) fun r => mirrors_refl ?_
  · refine mirrors_bind (mirrors_wrapping _ _ open_cursor_mirrors) fun q => mirrors_refl ?_
    exact kept_bind (letting_of_acts (k := p.raw) fresh_acts) fun _ => kept_pure _
  · cases r with
    | ok u => exact kept_pure t
    | error f =>
        have closes := close_after_failure_acts (t.close_acts t.on_own) "statement"
        exact kept_bind (letting_of_work closes) fun _ => kept_throw f

theorem with_statement_mirrors {bind bind' : Binder} {body body' : Statement → Action α} (sql : String)
    (binds : ∀ t, (p.letting P).Mirrors (bind t) (bind' t)) (bodies : ∀ t, (p.letting P).Mirrors (body t) (body' t)) :
    (p.letting P).Mirrors ((Connection.pooled p).withStatement sql bind body)
      ((Connection.direct p.raw).withStatement sql bind' body') := by
  refine mirrors_bind (open_bound_mirrors sql binds) fun t => ?_
  exact mirrors_releasing _ _ (acting_mono Call.work_on (t.close_acts t.on_own)) (bodies t)

theorem with_results_mirrors {bind bind' : Binder} {consumer consumer' : RowCursor → Action α} (sql : String)
    (binds : ∀ t, (p.letting P).Mirrors (bind t) (bind' t))
    (consumes : ∀ r, (p.letting P).Mirrors (consumer r) (consumer' r)) :
    (p.letting P).Mirrors ((Connection.pooled p).withResults sql bind consumer)
      ((Connection.direct p.raw).withResults sql bind' consumer') := by
  refine with_statement_mirrors sql binds fun t => ?_
  refine mirrors_bind (mirrors_refl (letting_of_work (t.query_acts t.on_own))) fun r => ?_
  have closes := r.close_acts (c := r.cursor.connection) (T := fun _ => True) rfl
  exact mirrors_releasing _ _ (acting_mono Call.work_on closes) (consumes r)

theorem run_update_mirrors {bind bind' : Binder} (sql : String) (binds : ∀ t, (p.letting P).Mirrors (bind t) (bind' t)) :
    (p.letting P).Mirrors ((Connection.pooled p).runUpdate sql bind) ((Connection.direct p.raw).runUpdate sql bind') := by
  refine with_statement_mirrors sql binds fun t => mirrors_refl ?_
  exact letting_of_work (t.run_update_acts t.on_own)

theorem run_batch_mirrors (sql : String) (batch : Option (List Given)) :
    (p.letting P).Mirrors ((Connection.pooled p).runBatch sql batch) ((Connection.direct p.raw).runBatch sql batch) := by
  refine with_statement_mirrors sql (fun t => mirrors_refl ?_) fun t => mirrors_refl ?_
  · exact letting_of_acts (k := p.raw) (Binder.of_batch_kept t.acts_queues batch)
  · exact letting_of_work (t.run_batch_acts t.on_own)

theorem run_sql_mirrors (sql : String) :
    (p.letting P).Mirrors (Transaction.runSql (.pooled p) sql) (Transaction.runSql (.direct p.raw) sql) := by
  refine mirrors_bind open_cursor_mirrors fun q => ?_
  have executes := q.execute_acts (P := Call.Work q.connection (· = sql)) sql none ⟨rfl, rfl⟩
  have closes := q.close_acts (P := Call.On q.connection) ⟨rfl, rfl⟩
  exact mirrors_releasing _ _ closes (mirrors_refl (letting_of_work executes))

theorem begin_mirrors (savepoint : Option String) :
    (p.letting P).Mirrors (Transaction.begin (.pooled p) savepoint) (Transaction.begin (.direct p.raw) savepoint) := by
  refine mirrors_bind switch_to_manual_mirrors fun _ => ?_
  cases savepoint with
  | none => exact mirrors_refl (kept_pure ())
  | some name => exact run_sql_mirrors _

theorem roll_back_mirrors (savepoint : Option String) :
    (p.letting P).Mirrors (Transaction.rollBack (.pooled p) savepoint) (Transaction.rollBack (.direct p.raw) savepoint) := by
  have debugs : ∀ text, (p.letting P).Kept (debug .commands text) := fun text =>
    letting_of_acts (k := p.raw) (debug_acts _ _)
  cases savepoint with
  | none => exact mirrors_bind rollback_mirrors fun _ => mirrors_refl (debugs _)
  | some name => exact mirrors_bind (run_sql_mirrors _) fun _ => mirrors_refl (debugs _)

theorem transact_mirrors {op op' : Connection → Action α} (savepoint : Value)
    (ops : (p.letting P).Mirrors (op (.pooled p)) (op' (.direct p.raw))) :
    (p.letting P).Mirrors ((Connection.pooled p).transact op savepoint) ((Connection.direct p.raw).transact op' savepoint) := by
  refine mirrors_bind (mirrors_refl (letting_of_acts (k := p.raw) (Savepoint.request_acts savepoint))) fun name => ?_
  refine mirrors_bind (mirrors_on_ordinary (begin_mirrors name) fun _ => mirrors_refl (kept_throw _)) fun _ => ?_
  refine mirrors_bind (mirrors_on_ordinary ?_ fun f => ?_) fun v => mirrors_refl ?_
  · exact mirrors_bind ops fun v => mirrors_bind commit_mirrors fun _ => mirrors_refl (kept_pure v)
  · refine mirrors_bind (mirrors_on_ordinary (roll_back_mirrors name) fun e => mirrors_refl ?_) fun _ =>
      mirrors_refl (kept_throw _)
    exact letting_of_acts (k := p.raw) (warn_acts _ _)
  · exact kept_bind (letting_of_acts (k := p.raw) (debug_acts _ _)) fun _ => kept_pure v

end

-- What clients and the layer do with one connection. A client opens cursors, commits, rolls back, and reads and
-- assigns attributes that a proxy passes on; what it does apart from the connection keeps a law.
inductive Dealing (l : Law) : Type → Type 1 where
  | apart {α : Type} (a : Action α) (kept : l.Kept a) : Dealing l α
  | next {α β : Type} (first : Dealing l α) (rest : α → Dealing l β) : Dealing l β
  | caught {α : Type} (d : Dealing l α) : Dealing l (Except Failure α)
  | openCursor : Dealing l RawCursor
  | commit : Dealing l Unit
  | rollback : Dealing l Unit
  | read (x : Passed) : Dealing l Value
  | assign (x : Passed) (value : Value) (reading : Reading Value) : Dealing l Unit
  | query {α : Type} (sql : String) (bind : Statement → Dealing l Unit) (consumer : RowCursor → Dealing l α) : Dealing l α
  | update (sql : String) (bind : Statement → Dealing l Unit) : Dealing l Int
  | batch (sql : String) (given : Option (List Given)) : Dealing l (List Int)
  | switchToManual : Dealing l Unit
  | transact {α : Type} (op : Dealing l α) (savepoint : Value) : Dealing l α

def Dealing.run {l : Law} {α : Type} (c : Connection) : Dealing l α → Action α
  | apart a _ => a
  | next first rest => first.run c >>= fun v => (rest v).run c
  | caught d => outcome (d.run c)
  | openCursor => c.openCursor
  | commit => c.commit
  | rollback => c.rollback
  | read x => c.read x.name
  | assign x value reading => c.assign x.name value reading
  | query sql bind consumer => c.withResults sql (fun t => (bind t).run c) fun r => (consumer r).run c
  | update sql bind => c.runUpdate sql fun t => (bind t).run c
  | batch sql given => c.runBatch sql given
  | switchToManual => c.switchToManual
  | transact op savepoint => c.transact (fun c => op.run c) savepoint

theorem dealing_mirrors {P : Call → Prop} {p : Proxy} (d : Dealing (p.letting P) α) :
    (p.letting P).Mirrors (d.run (.pooled p)) (d.run (.direct p.raw)) := by
  induction d with
  | apart a kept => exact mirrors_refl kept
  | next first rest ih ih' => exact mirrors_bind ih ih'
  | caught d ih => exact mirrors_outcome ih
  | openCursor => exact open_cursor_mirrors
  | commit => exact commit_mirrors
  | rollback => exact rollback_mirrors
  | read x => exact ⟨p.read_kept x.name, fun _ => read_in_place x⟩
  | assign x value reading => exact assign_mirrors x value reading
  | query sql bind consumer ih ih' => exact with_results_mirrors sql ih ih'
  | update sql bind ih => exact run_update_mirrors sql ih
  | batch sql given => exact run_batch_mirrors sql given
  | switchToManual => exact switch_to_manual_mirrors
  | transact op savepoint ih => exact transact_mirrors savepoint ih

def Law.here (w : World) : Law := ⟨(· = w), fun _ _ => True, fun _ => trivial, fun _ _ _ _ _ => trivial⟩

-- On a proxy in place each dealing runs as on its raw connection, in all that the world shows, and the proxy stays in
-- place; the pool is called only by what clients do apart from the connection. A report, too, tells the same, unless
-- the raw connection has an attribute by the name under which a proxy shows what it stands for.
theorem proxy_is_transparent {P : Call → Prop} {p : Proxy} {w : World} (inPlace : p.InPlace w) :
    (∀ {α : Type} (d : Dealing (p.letting P) α),
      d.run (.pooled p) w = d.run (.direct p.raw) w ∧
      p.InPlace ((d.run (.pooled p)).after w) ∧
      Grew (fun call => call.pools = true → P call) w ((d.run (.pooled p)).after w)) ∧
    ((w.connections.get p.raw.index).attributes.get? "raw_connection" = none →
      (Connection.pooled p).report w = (Connection.direct p.raw).report w ∧ (Connection.pooled p).report.after w = w) := by
  refine ⟨fun d => ?_, fun bare => ?_⟩
  · have mirrors := dealing_mirrors d
    exact ⟨mirrors.same w inPlace, mirrors.kept w inPlace⟩
  · have mirrors := report_mirrors (l := Law.here w) (p := p) (fun _ same => same ▸ inPlace) fun _ same => same ▸ bare
    exact ⟨mirrors.same w rfl, (mirrors.kept w rfl).1⟩

-- A lent connection that commits by itself, and a commit that it refuses: an attribute is set, a row is written, and
-- the way back goes to the savepoint. The pool hears nothing of it.
theorem scope_on_lent_connection :
    let p : Proxy := ⟨0, ⟨0⟩⟩
    let w := World.start
      [{ (default : RawConnectionState) with
          attributes := [("autocommit", .gives (.bool true))]
          commitFaults := [some (Kind.driver.fault "serialization")] }] default 0
    let op (c : Connection) : Action Int := do
      c.assign "label" (.text "job") (.gives (.text "job"))
      c.runUpdate "INSERT INTO t VALUES (?)" (Binder.ofGiven (.list [.int 7]))
    p.InPlace w ∧ (w.connections.get p.raw.index).attributes.get? "raw_connection" = none ∧
      (Connection.pooled p).transact op (.text "before") w = (Connection.direct p.raw).transact op (.text "before") w ∧
      Grew (fun call => call.pools = true → False) w (((Connection.pooled p).transact op (.text "before")).after w) ∧
      (Connection.pooled p).report w = (Connection.direct p.raw).report w := by
  intro p w op
  have inPlace : p.InPlace w := ⟨rfl, rfl, fun _ _ => rfl⟩
  let label : Passed := ⟨"label", by decide, by decide⟩
  let dealing : Dealing (p.letting fun _ => False) Int :=
    .transact
      (.next (.assign label (.text "job") (.gives (.text "job"))) fun _ =>
        .update "INSERT INTO t VALUES (?)" fun t =>
          .apart (Binder.ofGiven (.list [.int 7]) t) (letting_of_acts (k := p.raw) (Binder.of_given_kept t.acts_queues.toBinds _)))
      (.text "before")
  obtain ⟨dealings, report⟩ := proxy_is_transparent (P := fun _ => False) inPlace
  obtain ⟨same, _, grew⟩ := dealings dealing
  exact ⟨inPlace, rfl, same, grew, (report rfl).1⟩

end SqlScope
