import SqlScope.Proofs.CursorSteps

set_option autoImplicit false

namespace SqlScope

open SqlScope.Action

variable {α : Type} {u v w w' : World}

def Result.page (t : Result) (offset maxRows : Int) : List (List Value) :=
  let rows := t.rows.drop (max offset 1 - 1).toNat
  if 0 < maxRows then rows.take maxRows.toNat else rows

-- What a callback leaves as it was, whichever way it ends: the driver is calm, and the cursors that were open
-- before have their rows.
def Considerate (a : Action α) : Prop := ∀ w, Calm w → Calmly (fun _ => False) w (a.after w)

-- One visit of rows from one world to another: before each call of the visitor, and after the last, the cursor
-- moves and nothing else happens. A visitor that fails ends the visit.
inductive Visits (q : RawCursor) (f : Row → Action α) : List Row → World → Except Failure (List α) → World → Prop where
  | done {w w' : World} (moved : Acts (Call.Moves q) w w') : Visits q f [] w (.ok []) w'
  | row {row : Row} {rest : List Row} {a : α} {o : Except Failure (List α)} {w u v w' : World}
      (moved : Acts (Call.Moves q) w u) (visited : f row u = .ok a v) (onward : Visits q f rest v o w') :
      Visits q f (row :: rest) w (o.map (a :: ·)) w'
  | stopped {row : Row} {rest : List Row} {e : Failure} {w u v : World}
      (moved : Acts (Call.Moves q) w u) (failed : f row u = .error e v) : Visits q f (row :: rest) w (.error e) v

inductive Scans (q : RawCursor) (columns : Action Unit) (f : Row → Action α) (rows : List Row) (w : World) :
    Except Failure (List α) → World → Prop where
  | refused {e : Failure} {v : World} (failed : columns w = .error e v) : Scans q columns f rows w (.error e) v
  | shown {o : Except Failure (List α)} {u v : World} (ran : columns w = .ok () u) (visits : Visits q f rows u o v) :
      Scans q columns f rows w o v

def limited {β : Type} : Option Nat → List β → List β
  | none, rows => rows
  | some n, rows => rows.take n

section

variable {q : RawCursor} {calls : Calls}

theorem moves_of_trying (trying : q.Trying calls) : ∀ made ∈ calls, made.1.Moves q := by
  obtain ⟨before, last, rfl, moving, _, moves⟩ := trying
  intro made member
  rcases List.mem_append.mp member with isBefore | isLast
  · exact (moving made isBefore).1
  · exact moves made isLast

theorem willing_of_calm (q : RawCursor) (calm : Calm w) : q.Willing w := by
  have own := (calm.connections q.connection.index).cursors q.index
  exact ⟨own.fetches, own.scrolls, own.result.rowCount, own.result.scroll⟩

theorem grew_of_adds {P : Call → Prop} (adds : Adds calls w w') (meets : ∀ made ∈ calls, P made.1) : Grew P w w' := by
  obtain ⟨added, grown, rfl⟩ := adds
  refine ⟨added, grown, fun e member => ?_⟩
  cases e with
  | call call fault => exact meets (call, fault) (List.mem_filterMap.mpr ⟨_, List.mem_reverse.mpr member, rfl⟩)
  | _ => trivial

theorem fetches_of_adds (q : RawCursor) (adds : Adds calls w w') :
    q.fetches w' = q.fetches w + (q.fetched calls).length := by
  obtain ⟨added, grown, rfl⟩ := adds
  have counted : ∀ es : List Event, (q.fetched (es.filterMap Event.call?)).length = es.countP (Event.calls (Call.fetches q)) := by
    intro es
    induction es with
    | nil => rfl
    | cons e rest ih =>
        cases e with
        | call call fault =>
            cases same : call.fetches q <;>
              simpa [RawCursor.fetched, Event.call?, Event.calls, List.countP_cons, same] using ih
        | _ => exact ih
  rw [RawCursor.fetches, RawCursor.fetches, World.count, World.count, grown, List.countP_append, Nat.add_comm, counted,
    List.countP_reverse]

theorem acts_of_works (works : q.Works calls w w') (moves : ∀ made ∈ calls, made.1.Moves q) : Acts (Call.Moves q) w w' where
  sessions i := by
    have same := congrArg World.sessions works.confined.world
    exact congrArg (fun sessions => sessions.get i) same
  proxies i := by
    have same := congrArg World.proxies works.confined.world
    exact congrArg (fun proxies => proxies.get i) same
  opened := by
    have same := congrArg World.opened works.confined.world
    exact same
  handles := by
    have same := congrArg World.handles works.confined.world
    exact Nat.le_of_eq same.symm
  standing i := by
    have same := congrArg RawConnectionState.standing (works.confined.connections i)
    exact same
  grew := grew_of_adds works.adds moves

theorem calmly_of_works (works : q.Works calls w w') (moves : ∀ made ∈ calls, made.1.Moves q) (calm : Calm w) :
    Calmly (· = q) w w' where
  calm := by
    have willing := willing_after works (willing_of_calm q calm)
    have pool : w'.pool = w.pool := by
      have same := congrArg World.pool works.confined.world
      exact same
    refine ⟨fun i => ?_, pool ▸ calm.borrows, pool ▸ calm.returns, fun i => ?_, ?_⟩
    · have own := calm.connections i
      rw [← works.confined.connections i] at own
      refine { own with cursors := fun j => ?_ }
      have result : (q.record w').result.Calm := by
        rw [works.result]
        exact ((calm.connections q.connection.index).cursors q.index).result
      by_cases same : (⟨⟨i⟩, j⟩ : RawCursor) = q
      · subst same
        exact ⟨result, willing.fetches, willing.scrolls⟩
      · have kept : (w'.connections.get i).cursors.get j = (w.connections.get i).cursors.get j :=
          works.confined.cursors ⟨⟨i⟩, j⟩ same
        rw [kept]
        exact (calm.connections i).cursors j
    · have same := congrArg World.proxies works.confined.world
      exact same ▸ calm.proxies i
    · have same := works.confined.world
      exact fun i above => (congrArg World.statements same) ▸ calm.statements i ((congrArg World.handles same) ▸ above)
  handles := (acts_of_works works moves).handles
  opened p opened := by
    have same := congrArg RawConnectionState.cursorsOpened (works.confined.connections p.connection.index)
    exact Nat.lt_of_lt_of_eq opened same.symm
  record p _ other := works.confined.cursors p other
  fetches p _ other := by
    rw [fetches_of_adds p works.adds, p.fetched_idle, List.length_nil, Nat.add_zero]
    intro made member
    rcases moves made member with fetch | ⟨position, scroll⟩
    · rw [fetch]
      exact beq_eq_false_iff_ne.mpr (Ne.symm other)
    · rw [scroll]
      rfl

end

theorem Result.page_start_first (t : Result) (offset : Int) : t.pageStart 0 offset = (max offset 1 - 1).toNat := by
  unfold Result.pageStart
  split
  · split <;> omega
  · omega

namespace RowCursor

variable {r : RowCursor}

variable {f : Row → Action α}

theorem visits_after {rows : List Row} {o : Except Failure (List α)} (moved : Acts (Call.Moves r.cursor) u v)
    (visits : Visits r.cursor f rows v o w) : Visits r.cursor f rows u o w := by
  cases visits with
  | done later => exact .done (acts_trans _ _ _ _ moved later)
  | row later visited onward => exact .row (acts_trans _ _ _ _ moved later) visited onward
  | stopped later failed => exact .stopped (acts_trans _ _ _ _ moved later) failed

theorem limited_nil {β : Type} (limit : Option Nat) : limited limit ([] : List β) = [] := by
  cases limit with
  | none => rfl
  | some n => exact List.take_nil

theorem limited_cons {β : Type} {limit : Option Nat} (more : limit ≠ some 0) (row : β) (rows : List β) :
    limited limit (row :: rows) = row :: limited (limit.map (· - 1)) rows := by
  cases limit with
  | none => rfl
  | some n =>
      cases n with
      | zero => exact absurd rfl more
      | succ n => rfl

theorem limited_drop {β : Type} {limit : Option Nat} (more : limit ≠ some 0) {rows : List β} {k : Nat}
    (inside : k < rows.length) :
    limited limit (rows.drop k) = rows[k] :: limited (limit.map (· - 1)) (rows.drop (k + 1)) := by
  rw [List.drop_eq_getElem_cons inside, limited_cons more]

theorem shows_at {rows : List (List Value)} {k : Nat} (inside : k < rows.length) :
    (r.shows rows)[k]? = some ⟨rows[k], r.columns⟩ := by
  rw [shows, List.getElem?_map, List.getElem?_eq_getElem inside]
  rfl

theorem shows_beyond {rows : List (List Value)} {k : Nat} (beyond : rows.length ≤ k) : (r.shows rows)[k]? = none := by
  rw [shows, List.getElem?_map, List.getElem?_eq_none beyond]
  rfl

-- One row more, in front of the visit of the others.
theorem visit_row {fuel : Nat} {limit : Option Nat} (more : limit ≠ some 0) {row : Row} {a : α}
    {o : Except Failure (List α)} (advanced : r.advance w = .ok (some row) u) (ran : f row u = .ok a v)
    (rest : r.visit f fuel (limit.map (· - 1)) v = ofOutcome o w') :
    r.visit f (fuel + 1) limit w = ofOutcome (o.map (a :: ·)) w' := by
  rw [r.visit_succ f fuel more]
  refine (bind_of_ok advanced).trans ((bind_of_ok ran).trans ?_)
  cases o with
  | ok as => exact bind_of_ok rest
  | error e => exact bind_of_error rest

theorem visit_calm {t : Result} {k : Nat} (considerate : ∀ row, Considerate (f row)) {fuel : Nat} (limit : Option Nat)
    (calm : Calm w) (stands : r.cursor.Stands t k w) (opened : r.cursor.Opened w) (enough : t.rows.length - k < fuel) :
    ∃ o v, r.visit f fuel limit w = ofOutcome o v ∧
      Visits r.cursor f (r.shows (limited limit (t.rows.drop k))) w o v ∧ Calmly (· = r.cursor) w v ∧
      r.cursor.fetches v ≤ r.cursor.fetches w + (t.rows.length - k + 1) ∧
      ∀ n, limit = some n → r.cursor.fetches v ≤ r.cursor.fetches w + n := by
  induction fuel generalizing limit k w with
  | zero => omega
  | succ fuel ih =>
      by_cases reached : limit = some 0
      · subst reached
        refine ⟨.ok [], w, by rw [visit]; rfl, .done (acts_refl _ w), calmly_refl calm, by omega, by omega⟩
      · obtain ⟨w₁, advanced, works, there, _⟩ := advance_stands stands
        have moves := moves_of_trying (trying_one (q := r.cursor) (Or.inl rfl) none)
        have moved := acts_of_works works moves
        have first := calmly_of_works works moves calm
        have once := fetches_of_adds r.cursor works.adds
        rw [RawCursor.fetched_fetch, List.length_singleton] at once
        have still := works.opened opened
        have positive : ∀ n, limit = some n → 1 ≤ n := fun n same => by
          rcases Nat.eq_zero_or_pos n with rfl | positive
          · exact absurd same reached
          · exact positive
        by_cases more : k < t.rows.length
        · let row : Row := ⟨t.rows[k], r.columns⟩
          have onward := considerate row w₁ first.calm
          have shown : r.shows (limited limit (t.rows.drop k)) =
              row :: r.shows (limited (limit.map (· - 1)) (t.rows.drop (k + 1))) := by
            rw [limited_drop reached more, shows, List.map_cons]
            rfl
          rw [shows_at more] at advanced
          rw [Nat.min_eq_left more] at there
          rw [shown]
          cases ran : f row w₁ with
          | error e v =>
              rw [after_of_error ran] at onward
              have same := onward.fetches r.cursor still (fun absurd => absurd)
              refine ⟨.error e, v, ?_, .stopped moved ran, ?_, by omega, fun n given => ?_⟩
              · rw [r.visit_succ f fuel reached]
                exact (bind_of_ok advanced).trans (bind_of_error ran)
              · exact calmly_trans first (calmly_mono (fun _ absurd => absurd.elim) onward)
              · have := positive n given
                omega
          | ok a v =>
              rw [after_of_ok ran] at onward
              have same := onward.fetches r.cursor still (fun absurd => absurd)
              have kept := stands_of_record there (onward.record r.cursor still (fun absurd => absurd))
              obtain ⟨o, w', run, visits, later, few, limits⟩ :=
                ih (limit.map (· - 1)) onward.calm kept (onward.opened r.cursor still) (by omega)
              refine ⟨o.map (a :: ·), w', visit_row reached advanced ran run, .row moved ran visits, ?_, by omega,
                fun n given => ?_⟩
              · refine calmly_trans first (calmly_trans ?_ later)
                exact calmly_mono (fun _ absurd => absurd.elim) onward
              · have first := positive n given
                have later := limits (n - 1) (by rw [given]; rfl)
                omega
        · rw [shows_beyond (Nat.not_lt.mp more)] at advanced
          refine ⟨.ok [], w₁, ?_, ?_, first, by omega, fun n same => ?_⟩
          · rw [r.visit_succ f fuel reached]
            exact bind_of_ok advanced
          · rw [List.drop_eq_nil_of_le (by omega), limited_nil]
            exact .done moved
          · have := positive n same
            omega

theorem patience_calm (w : World) : ∃ n, r.patience w = .ok n w ∧ (r.cursor.rest w).length < n := by
  refine ⟨(r.cursor.record w).result.rows.length - (r.cursor.record w).position + 1 + w.rewinds, rfl, ?_⟩
  rw [RawCursor.rest, RawCursorState.rest, List.length_drop]
  omega

theorem page_limited (t : Result) (offset maxRows : Int) :
    t.page offset maxRows = limited (limitOf maxRows) (t.rows.drop (max offset 1 - 1).toNat) := by
  by_cases unlimited : maxRows ≤ 0
  · rw [Result.page, if_neg (by omega), limitOf, if_pos unlimited]
    rfl
  · rw [Result.page, if_pos (by omega), limitOf, if_neg unlimited]
    rfl

def Frugal (q : RawCursor) (t : Result) (offset maxRows : Int) (w w' : World) : Prop :=
  q.fetches w' ≤ q.fetches w + (t.rows.length + 1) ∧
    (0 < maxRows → q.fetches w' ≤ q.fetches w + ((max (offset - 1) 0).toNat + maxRows.toNat))

theorem walk_calm (offset maxRows : Int) {t : Result} (calm : Calm w) (opened : r.cursor.Opened w)
    (start : r.cursor.record w = t.opened) (honest : t.Honest) (considerate : ∀ row, Considerate (f row)) :
    ∃ o v, r.walk offset maxRows f w = ofOutcome o v ∧ Visits r.cursor f (r.shows (t.page offset maxRows)) w o v ∧
      Calmly (· = r.cursor) w v ∧ Frugal r.cursor t offset maxRows w v := by
  obtain ⟨calls, w₁, works, trying, few, there⟩ :=
    move_to_stands offset honest (stands_opened start (willing_of_calm r.cursor calm))
  have moves := moves_of_trying trying
  have moved := calmly_of_works works moves calm
  have count := fetches_of_adds r.cursor works.adds
  rw [t.page_start_first] at there
  rw [page_limited]
  rcases there with ⟨inside, ran, stands⟩ | ⟨beyond, ran, _⟩
  · obtain ⟨n, patient, enough⟩ := patience_calm (r := r) w₁
    rw [rest_of_stands stands, List.length_drop] at enough
    obtain ⟨o, v, run, visits, later, fetches, limits⟩ :=
      visit_calm considerate (limitOf maxRows) moved.calm stands (works.opened opened) enough
    refine ⟨o, v, ?_, visits_after (acts_of_works works moves) visits, calmly_trans moved later, by omega, fun limited => ?_⟩
    · rw [walk, bind_of_ok ran, if_pos rfl, bind_of_ok patient, run]
    · have last := limits maxRows.toNat (by rw [limitOf, if_neg (by omega)])
      omega
  · refine ⟨.ok [], w₁, ?_, ?_, moved, by omega, by omega⟩
    · rw [walk, bind_of_ok ran]
      rfl
    · rw [List.drop_eq_nil_of_le (by omega), limited_nil]
      exact .done (acts_of_works works moves)

end RowCursor

theorem releasing_congr {a b : Action α} (same : a w = b w') (close : Action Unit) (what : String) (kind : Kind) :
    releasing close what kind a w = releasing close what kind b w' := by
  refine bind_congr ?_ _
  rw [outcome, outcome, same]

theorem releasing_calm {x : RawCursor → Prop} {close : Action Unit} (smooth : Smooth x close) (what : String) (kind : Kind)
    (o : Except Failure α) (calm : Calm w) :
    ∃ w', releasing close what kind (ofOutcome o) w = ofOutcome o w' ∧ Calmly x w w' := by
  obtain ⟨_, w', closed, onward⟩ := smooth_ok smooth calm
  refine ⟨w', ?_, onward⟩
  cases o with
  | ok v =>
      have ran : (ofOutcome (.ok v) : Action α) w = .ok v w := rfl
      rw [releasing, bind_of_ok (outcome_of_ok ran)]
      exact bind_of_ok (on_ordinary_of_ok closed)
  | error e =>
      have ran : (ofOutcome (.error e) : Action α) w = .error e w := rfl
      rw [releasing, bind_of_ok (outcome_of_error ran)]
      exact bind_of_ok (on_ordinary_of_ok closed)

theorem finish_calm {x : RawCursor → Prop} (s : Session) (c : Connection) (o : Except Failure α) (calm : Calm w) :
    ∃ w', s.finish c (ofOutcome o w) = ofOutcome o w' ∧ Calmly x w w' := by
  cases o with
  | ok v =>
      obtain ⟨_, w', ran, onward⟩ := smooth_ok (x := x) (s.smooth_release c) calm
      exact ⟨w', bind_of_ok ran, onward⟩
  | error e =>
      obtain ⟨_, w', ran, onward⟩ := smooth_ok (x := x) (s.smooth_release_after_failure c) calm
      exact ⟨w', bind_of_ok ran, onward⟩

namespace Session

-- The session got a connection and bound a statement on it; its query got the result that was due there and
-- gave this cursor.
def Queries (s : Session) (sql : String) (bind : Binder) (w : World) (r : RowCursor) (result : Result) (u : World) : Prop :=
  ∃ c w₁ t w₂, s.entry w = .ok c w₁ ∧ Statement.openBound c sql bind w₁ = .ok t w₂ ∧
    (w₂.connections.get t.cursor.connection.index).results.head?.getD default = result ∧ t.query w₂ = .ok r u

theorem queries_calm {s : Session} (serves : s.source.Serves) (sql : String) {bind : Binder}
    (fills : ∀ t : Statement, Binder.Fills t (bind t)) (calm : Calm w) :
    ∃ r result u, s.Queries sql bind w r result u ∧ r.cursor.record u = result.opened ∧ r.cursor.Opened u ∧ Calm u := by
  obtain ⟨c, w₁, entered, first⟩ := smooth_ok (x := fun _ => False) (smooth_entry serves) calm
  obtain ⟨t, w₂, opened, second, _, there, full⟩ := Statement.open_bound_calm c sql fills first.calm
  obtain ⟨r, u, queried, same, third, record⟩ := t.query_calm second.calm full
  refine ⟨r, _, u, ⟨c, w₁, t, w₂, entered, opened, rfl, queried⟩, by rw [same]; exact record, ?_, third.calm⟩
  rw [same]
  exact third.opened t.cursor there

theorem page_of_queries {s : Session} {sql : String} {bind : Binder} {r : RowCursor} {result : Result}
    (queried : s.Queries sql bind w r result u) :
    ∃ (c : Connection) (t : Statement) (leave : EStateM.Result Failure World (List α) → EStateM.Result Failure World (List α)),
      (leave = id ∨ leave = s.finish c) ∧
        ∀ (columns : List Column → Action Unit) (offset maxRows : Int) (f : Row → Action α) o v,
          (columns r.columns >>= fun _ => r.walk offset maxRows f) u = ofOutcome o v →
            s.page sql bind columns offset maxRows f w = leave (releasing t.close "statement" .execution
              (releasing r.close "result cursor" .execution (ofOutcome o)) v) := by
  obtain ⟨c, w₁, t, w₂, entered, bound, _, gave⟩ := queried
  obtain ⟨leave, way, held⟩ := holding_of_entered (α := List α) entered
  refine ⟨c, t, leave, way, fun columns offset maxRows f o v walked => ?_⟩
  rw [page_eq_with_results, withResults, held, Connection.withResults, Connection.withStatement, bind_of_ok bound]
  refine congrArg leave (releasing_congr ((bind_of_ok gave).trans ?_) _ _ _)
  exact releasing_congr walked _ _ _

theorem page_calm {s : Session} {sql : String} {bind : Binder} {r : RowCursor} {result : Result}
    (queried : s.Queries sql bind w r result u) (calm : Calm u) (opened : r.cursor.Opened u)
    (start : r.cursor.record u = result.opened) (honest : result.Honest) (offset maxRows : Int) :
    ∃ leave : Except Failure (List α) → World → EStateM.Result Failure World (List α),
      ∀ (columns : List Column → Action Unit) (f : Row → Action α), (∀ cs, Considerate (columns cs)) →
        (∀ row, Considerate (f row)) → ∃ o v w',
          Scans r.cursor (columns r.columns) f (r.shows (result.page offset maxRows)) u o v ∧
            s.page sql bind columns offset maxRows f w = leave o v ∧ leave o v = ofOutcome o w' ∧
            RowCursor.Frugal r.cursor result offset maxRows u w' := by
  obtain ⟨c, t, leave, way, left⟩ := page_of_queries (α := α) queried
  let close : Except Failure (List α) → Action (List α) := fun o =>
    releasing t.close "statement" .execution (releasing r.close "result cursor" .execution (ofOutcome o))
  have closes : ∀ o v, Calm v → ∃ w', leave (close o v) = ofOutcome o w' ∧ Calmly (fun _ => False) v w' := by
    intro o v calm
    obtain ⟨v₁, inner, first⟩ := releasing_calm (x := fun _ => False) r.smooth_close "result cursor" .execution o calm
    obtain ⟨v₂, outer, second⟩ := releasing_calm (x := fun _ => False) t.smooth_close "statement" .execution o first.calm
    have both : close o v = ofOutcome o v₂ := (releasing_congr inner _ _ _).trans outer
    rw [both]
    rcases way with rfl | rfl
    · exact ⟨v₂, rfl, calmly_trans first second⟩
    · obtain ⟨w', finished, third⟩ := finish_calm (x := fun _ => False) s c o second.calm
      exact ⟨w', finished, calmly_trans first (calmly_trans second third)⟩
  refine ⟨fun o v => leave (close o v), fun columns f polite considerate => ?_⟩
  have ended : ∀ o v, (columns r.columns >>= fun _ => r.walk offset maxRows f) u = ofOutcome o v →
      s.page sql bind columns offset maxRows f w = leave (close o v) := left columns offset maxRows f
  have shown := polite r.columns u calm
  cases ran : columns r.columns u with
  | error e v =>
      rw [after_of_error ran] at shown
      obtain ⟨w', done, onward⟩ := closes (.error e) v shown.calm
      refine ⟨.error e, v, w', .refused ran, ended (.error e) v (bind_of_error ran), done, ?_⟩
      have same := onward.fetches r.cursor (shown.opened r.cursor opened) (fun absurd => absurd)
      have same' := shown.fetches r.cursor opened (fun absurd => absurd)
      exact ⟨by omega, by omega⟩
  | ok _ u₁ =>
      rw [after_of_ok ran] at shown
      have kept := shown.record r.cursor opened (fun absurd => absurd)
      have there := shown.opened r.cursor opened
      obtain ⟨o, v, walked, visits, walking, frugal⟩ :=
        RowCursor.walk_calm (r := r) offset maxRows shown.calm there (kept.trans start) honest considerate
      obtain ⟨w', done, onward⟩ := closes o v walking.calm
      refine ⟨o, v, w', .shown ran visits, ended o v ((bind_of_ok ran).trans walked), done, ?_⟩
      have same := onward.fetches r.cursor (walking.opened r.cursor there) (fun absurd => absurd)
      have same' := shown.fetches r.cursor opened (fun absurd => absurd)
      exact ⟨by have := frugal.1; omega, fun limited => by have := frugal.2 limited; omega⟩

end Session

theorem visits_records {q : RawCursor} {rows : List Row} {o : Except Failure (List (Entries Label Value))}
    (visits : Visits q (fun row => ofExcept row.toMap) rows u o v) : ofOutcome o w = ofExcept (rows.mapM Row.toMap) w := by
  induction visits with
  | done moved => rfl
  | @row row rest a o _ _ _ _ moved visited onward ih =>
      have here : row.toMap = .ok a := by
        cases made : row.toMap with
        | ok es =>
            rw [made] at visited
            cases visited
            rfl
        | error g =>
            rw [made] at visited
            cases visited
      rw [List.mapM_cons, here]
      cases later : rest.mapM Row.toMap with
      | ok as =>
          rw [later] at ih
          cases o with
          | ok bs => cases ih; rfl
          | error e => cases ih
      | error g =>
          rw [later] at ih
          cases o with
          | ok bs => cases ih
          | error e => cases ih; rfl
  | @stopped row rest e _ _ _ moved failed =>
      rw [List.mapM_cons]
      cases made : row.toMap with
      | ok es =>
          rw [made] at failed
          cases failed
      | error g =>
          rw [made] at failed
          cases failed
          rfl

theorem considerate_of_still {a : Action α} (still : ∀ w, a.after w = w) : Considerate a := fun w calm => by
  rw [still]
  exact calmly_refl calm

-- A page is exact: the columns are shown once, and then the visitor gets the rows of the page, in order and each
-- once. Neither the way to the offset nor what the driver tells about its rows makes a difference.
theorem pages_exact {s : Session} (serves : s.source.Serves) (sql : String) {bind : Binder}
    (fills : ∀ t : Statement, Binder.Fills t (bind t)) (calm : Calm w) (offset maxRows : Int) :
    ∃ r result u, s.Queries sql bind w r result u ∧ (result.Honest →
      (∃ leave : Except Failure (List Unit) → World → EStateM.Result Failure World Unit,
        ∀ (columns : List Column → Action Unit) (f : Row → Action Unit), (∀ cs, Considerate (columns cs)) →
          (∀ row, Considerate (f row)) → ∃ o v w',
            Scans r.cursor (columns r.columns) f (r.shows (result.page offset maxRows)) u o v ∧
              s.scan sql bind columns offset maxRows f w = leave o v ∧ leave o v = ofOutcome (o.map fun _ => ()) w' ∧
              RowCursor.Frugal r.cursor result offset maxRows u w') ∧
      ∃ w', s.records sql bind offset maxRows w = ofExcept ((r.shows (result.page offset maxRows)).mapM Row.toMap) w' ∧
        RowCursor.Frugal r.cursor result offset maxRows u w') := by
  obtain ⟨r, result, u, queried, start, opened, onward⟩ := Session.queries_calm serves sql fills calm
  refine ⟨r, result, u, queried, fun honest => ⟨?_, ?_⟩⟩
  · obtain ⟨leave, pages⟩ := Session.page_calm (α := Unit) queried onward opened start honest offset maxRows
    let ignore : EStateM.Result Failure World (List Unit) → EStateM.Result Failure World Unit
      | .ok _ w => .ok () w
      | .error e w => .error e w
    refine ⟨fun o v => ignore (leave o v), fun columns f polite considerate => ?_⟩
    obtain ⟨o, v, w', scans, ran, left, frugal⟩ := pages columns f polite considerate
    refine ⟨o, v, w', scans, ?_, ?_, frugal⟩
    · change s.scan sql bind columns offset maxRows f w = ignore (leave o v)
      rw [← ran]
      cases ended : s.page sql bind columns offset maxRows f w with
      | ok as w₁ => exact bind_of_ok ended
      | error e w₁ => exact bind_of_error ended
    · dsimp only
      rw [left]
      cases o <;> rfl
  · obtain ⟨_, pages⟩ := Session.page_calm (α := Entries Label Value) queried onward opened start honest offset maxRows
    obtain ⟨o, v, w', scans, ran, left, frugal⟩ := pages (fun _ => pure ()) (fun row => ofExcept row.toMap)
      (fun _ => considerate_of_still fun _ => rfl)
      (fun row => considerate_of_still fun _ => by cases row.toMap <;> rfl)
    refine ⟨w', ?_, frugal⟩
    rw [Session.records, ran, left]
    cases scans with
    | refused failed => cases failed
    | shown shown visits => exact visits_records visits

-- The second row, on a cursor that can scroll.
theorem page_of_second_row :
    let result : Result :=
      { (default : Result) with
        description := .gives (some [.full (.text "a") .null])
        rows := [[.int 1], [.int 2], [.int 3]]
        rowCount := .gives (some 3)
        scroll := .gives .method }
    let w := World.start [{ (default : RawConnectionState) with results := [result] }] default 0
    let s : Session := ⟨0, .plain⟩
    result.page 2 1 = [[.int 2]] ∧ ∃ r u w',
      s.Queries "SELECT a FROM t WHERE b = %s" (Binder.ofGiven (.list [.int 7])) w r result u ∧
        s.records "SELECT a FROM t WHERE b = %s" (Binder.ofGiven (.list [.int 7])) 2 1 w = .ok [[(.text "a", .int 2)]] w' ∧
        r.cursor.fetches w' ≤ r.cursor.fetches u + 2 := by
  intro result w s
  have calm : Calm w :=
    { connections := fun i => by
        cases i with
        | zero =>
            refine { default_calm with results := fun r member => ?_ }
            rw [List.mem_singleton.mp member]
            exact { default_result_calm with
              description := ⟨_, [⟨.text "a", .text "a", .null⟩], rfl, rfl⟩
              rowCount := ⟨_, rfl⟩
              scroll := fun _ raises => by cases raises }
        | succ i => exact default_calm
      borrows := fun _ member => by cases member
      returns := fun _ member => by cases member
      proxies := fun _ => ⟨rfl, rfl⟩
      statements := fun _ _ => rfl }
  have honest : result.Honest := fun n counted => by
    cases counted
    exact Or.inr (by decide)
  obtain ⟨r, found, u, queried, exact⟩ := pages_exact (s := s) trivial "SELECT a FROM t WHERE b = %s"
    (Binder.of_given_fills (.list [.int 7])) calm 2 1
  obtain ⟨c, w₁, t, w₂, entered, bound, due, gave⟩ := queried
  cases entered
  cases bound
  cases gave
  cases due
  obtain ⟨_, w', read, frugal⟩ := exact honest
  exact ⟨rfl, _, _, w', ⟨_, _, _, _, rfl, rfl, rfl, rfl⟩, read, frugal.2 (by decide)⟩

end SqlScope
