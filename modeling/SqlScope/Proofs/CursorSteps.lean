import SqlScope.Proofs.CallLists
import SqlScope.Proofs.Calm

set_option autoImplicit false

namespace SqlScope

open SqlScope.Action

variable {α β : Type} {q : RawCursor} {r : RowCursor} {calls first second : Calls} {u v w w' : World}

namespace Result

-- A driver that tells how many rows there are does not leave out any.
def Honest (t : Result) : Prop := ∀ n, t.rowCount = .gives (some n) → n < 0 ∨ t.rows.length ≤ n

def scrolls (t : Result) : Bool :=
  match t.scroll with
  | .gives support => support == .method
  | .raises _ => false

-- The row after which a page begins, when `k` rows are before the driver's position: an offset is counted from
-- there, or from the first row if the cursor can jump.
def pageStart (t : Result) (k : Nat) (offset : Int) : Nat :=
  if t.scrolls then if offset ≤ 1 then k else (offset - 1).toNat
  else k + (max (offset - 1) 0).toNat

end Result

def Call.Moves (q : RawCursor) (call : Call) : Prop := call = .fetch q ∨ ∃ position, call = .scroll q position

def RawCursorState.rest (t : RawCursorState) : List (List Value) := t.result.rows.drop t.position

namespace RawCursor

def rest (q : RawCursor) (w : World) : List (List Value) := (q.record w).rest

def rows (q : RawCursor) (w : World) : List (List Value) := (q.record w).result.rows

def position (q : RawCursor) (w : World) : Nat := (q.record w).position

def fetched (q : RawCursor) (calls : Calls) : List (Option Fault) :=
  calls.filterMap fun made => if made.1.fetches q then some made.2 else none

structure Confined (q : RawCursor) (w w' : World) : Prop where
  world : { w' with connections := w.connections, rowCursors := w.rowCursors, history := w.history } = w
  connections : ∀ i, { w'.connections.get i with cursors := (w.connections.get i).cursors } = w.connections.get i
  cursors : ∀ p : RawCursor, p ≠ q → p.record w' = p.record w

-- Work on a driver cursor: the calls that were made, and the script that they left. A fetch fails by script only,
-- and uses up its entry.
structure Works (q : RawCursor) (calls : Calls) (w w' : World) : Prop where
  adds : Adds calls w w'
  confined : q.Confined w w'
  result : (q.record w').result = (q.record w).result
  opened : q.Opened w → q.Opened w'
  fetchFaults : (q.record w').fetchFaults = (q.record w).fetchFaults.drop (q.fetched calls).length
  scrollFaults : (q.record w').scrollFaults ⊆ (q.record w).scrollFaults
  fetched : ∀ g, (Call.fetch q, some g) ∈ calls → some g ∈ (q.record w).fetchFaults

structure Willing (q : RawCursor) (w : World) : Prop where
  fetches : (q.record w).fetchFaults.Clear
  scrolls : (q.record w).scrollFaults.Clear
  counts : ∃ n, (q.record w).result.rowCount = .gives n
  scroll : (q.record w).result.scroll.Optional

-- The driver stands behind the first `k` rows of this result, and nothing will fail.
structure Stands (q : RawCursor) (t : Result) (k : Nat) (w : World) : Prop where
  result : (q.record w).result = t
  position : q.position w = k
  inside : k ≤ t.rows.length
  willing : q.Willing w

def Moving (q : RawCursor) (calls : Calls) : Prop := ∀ made ∈ calls, made.1.Moves q ∧ made.2 = none

def Trying (q : RawCursor) (calls : Calls) : Prop :=
  ∃ before last, calls = before ++ last ∧ q.Moving before ∧ last.length ≤ 1 ∧ ∀ made ∈ last, made.1.Moves q

def fetching (q : RawCursor) (n : Nat) : Calls := List.replicate n (.fetch q, none)

end RawCursor

-- All fetches succeeded, or all but the last, and that one is why the work failed.
def Breaks (n : Nat) (fetched : List (Option Fault)) (o : Except Failure β) : Prop :=
  fetched = List.replicate n none ∨
    ∃ g : Fault, fetched = List.replicate n none ++ [some g] ∧ o = .error (g.raised.wrapped .execution "Failed to fetch row")

def RowCursor.shows (r : RowCursor) (rows : List (List Value)) : List Row := rows.map fun values => ⟨values, r.columns⟩

def RowCursor.current (r : RowCursor) (w : World) : Option Row := (w.rowCursors.get r.index).row

namespace RawCursor

theorem fetched_append (q : RawCursor) (first second : Calls) :
    q.fetched (first ++ second) = q.fetched first ++ q.fetched second :=
  List.filterMap_append

theorem fetched_fetch (q : RawCursor) (fault : Option Fault) : q.fetched [(.fetch q, fault)] = [fault] := by
  simp [fetched, Call.fetches]

theorem fetched_fetching (q : RawCursor) (n : Nat) : q.fetched (q.fetching n) = List.replicate n none := by
  simp [fetched, fetching, Call.fetches]

theorem fetched_idle (q : RawCursor) {calls : Calls} (idle : ∀ made ∈ calls, made.1.fetches q = false) :
    q.fetched calls = [] := by
  refine List.filterMap_eq_nil_iff.mpr fun made member => ?_
  rw [idle made member]
  rfl

end RawCursor

theorem confined_refl (q : RawCursor) (w : World) : q.Confined w w := ⟨rfl, fun _ => rfl, fun _ _ => rfl⟩

theorem confined_trans (early : q.Confined u v) (late : q.Confined v w) : q.Confined u w where
  world := by
    have onward := congrArg (fun x : World => { x with
      connections := u.connections, rowCursors := u.rowCursors, history := u.history }) late.world
    exact onward.trans early.world
  connections i := by
    have onward := congrArg (fun x : RawConnectionState => { x with cursors := (u.connections.get i).cursors })
      (late.connections i)
    exact onward.trans (early.connections i)
  cursors p other := (late.cursors p other).trans (early.cursors p other)

theorem works_refl (q : RawCursor) (w : World) : q.Works [] w w where
  adds := adds_same rfl
  confined := confined_refl q w
  result := rfl
  opened := id
  fetchFaults := rfl
  scrollFaults := List.Subset.refl _
  fetched _ absurd := by cases absurd

theorem works_trans (early : q.Works first u v) (late : q.Works second v w) : q.Works (first ++ second) u w where
  adds := adds_trans early.adds late.adds
  confined := confined_trans early.confined late.confined
  result := late.result.trans early.result
  opened opened := late.opened (early.opened opened)
  fetchFaults := by
    rw [late.fetchFaults, early.fetchFaults, List.drop_drop, q.fetched_append, List.length_append]
  scrollFaults := List.Subset.trans late.scrollFaults early.scrollFaults
  fetched g member := by
    rcases List.mem_append.mp member with isFirst | isSecond
    · exact early.fetched g isFirst
    · have scheduled := late.fetched g isSecond
      rw [early.fetchFaults] at scheduled
      exact List.mem_of_mem_drop scheduled

theorem willing_after (works : q.Works calls w w') (willing : q.Willing w) : q.Willing w' where
  fetches g member := by
    rw [works.fetchFaults] at member
    exact willing.fetches g (List.mem_of_mem_drop member)
  scrolls g member := willing.scrolls g (works.scrollFaults member)
  counts := by
    rw [works.result]
    exact willing.counts
  scroll := by
    rw [works.result]
    exact willing.scroll

theorem works_unwilling {g : Fault} (works : q.Works calls w w') (failed : (Call.fetch q, some g) ∈ calls) : ¬ q.Willing w :=
  fun willing => willing.fetches g (works.fetched g failed)

theorem rows_after (works : q.Works calls w w') : q.rows w' = q.rows w := congrArg Result.rows works.result

theorem stands_after {t : Result} {j k : Nat} (works : q.Works calls w w') (stands : q.Stands t j w)
    (position : q.position w' = k) (inside : k ≤ t.rows.length) : q.Stands t k w' :=
  ⟨works.result.trans stands.result, position, inside, willing_after works stands.willing⟩

theorem stands_opened {t : Result} (start : q.record w = t.opened) (willing : q.Willing w) : q.Stands t 0 w where
  result := by
    rw [start]
    rfl
  position := by
    rw [RawCursor.position, start]
    rfl
  inside := Nat.zero_le _
  willing := willing

theorem stands_of_record {t : Result} {k : Nat} (stands : q.Stands t k w) (kept : q.record w' = q.record w) :
    q.Stands t k w' := by
  obtain ⟨result, position, inside, willing⟩ := stands
  refine ⟨by rw [kept, result], ?_, inside, ?_⟩
  · rw [RawCursor.position, kept]
    exact position
  · exact ⟨by rw [kept]; exact willing.fetches, by rw [kept]; exact willing.scrolls, by rw [kept]; exact willing.counts,
      by rw [kept]; exact willing.scroll⟩

theorem rows_of_stands {t : Result} {k : Nat} (stands : q.Stands t k w) : q.rows w = t.rows :=
  congrArg Result.rows stands.result

theorem rest_of_stands {t : Result} {k : Nat} (stands : q.Stands t k w) : q.rest w = t.rows.drop k := by
  change (q.rows w).drop (q.position w) = _
  rw [rows_of_stands stands, stands.position]

theorem moving_append (early : q.Moving first) (late : q.Moving second) : q.Moving (first ++ second) := by
  intro made member
  rcases List.mem_append.mp member with isFirst | isSecond
  · exact early made isFirst
  · exact late made isSecond

theorem trying_append (early : q.Moving first) (late : q.Trying second) : q.Trying (first ++ second) := by
  obtain ⟨before, last, rfl, moving, short, moves⟩ := late
  exact ⟨first ++ before, last, (List.append_assoc first before last).symm, moving_append early moving, short, moves⟩

theorem moving_nothing (q : RawCursor) : q.Moving [] := fun _ absurd => by cases absurd

theorem trying_of_moving (moving : q.Moving calls) : q.Trying calls :=
  ⟨calls, [], (List.append_nil calls).symm, moving, Nat.zero_le 1, fun _ absurd => (List.not_mem_nil absurd).elim⟩

theorem trying_one {call : Call} (moves : call.Moves q) (fault : Option Fault) : q.Trying [(call, fault)] := by
  refine ⟨[], [(call, fault)], rfl, fun _ absurd => (List.not_mem_nil absurd).elim, Nat.le_refl 1, fun made member => ?_⟩
  rw [List.mem_singleton.mp member]
  exact moves

theorem moving_fetching (q : RawCursor) (n : Nat) : q.Moving (q.fetching n) := by
  intro made member
  rw [List.eq_of_mem_replicate member]
  exact ⟨Or.inl rfl, rfl⟩

namespace RawCursor

theorem rest_of (q : RawCursor) (w : World) : q.rest w = (q.rows w).drop (q.position w) := rfl

theorem update_opened (f : RawCursorState → RawCursorState) (opened : q.Opened w) : q.Opened ((q.update f).after w) := by
  change q.index < ((w.connections.put _ _).get _).cursorsOpened
  rw [Table.get_put, if_pos rfl]
  exact opened

theorem connections_updated (q : RawCursor) (f : RawCursorState → RawCursorState) (w : World) (i : Nat) :
    ((q.update f).after w).connections.get i = if q.connection.index = i then
      { w.connections.get q.connection.index with
        cursors := (w.connections.get q.connection.index).cursors.put q.index (f (q.record w)) }
      else w.connections.get i :=
  Table.get_put _ _ _ _

theorem update_confined (q : RawCursor) (f : RawCursorState → RawCursorState) (w : World) :
    q.Confined w ((q.update f).after w) where
  world := rfl
  connections i := by
    rw [q.connections_updated]
    split
    · rename_i same
      rw [same]
    · rfl
  cursors p other := by
    unfold record
    rw [q.connections_updated]
    split
    · rename_i same
      have apart : ¬ q.index = p.index := fun there => other (by
        obtain ⟨⟨_⟩, _⟩ := q
        obtain ⟨⟨_⟩, _⟩ := p
        cases same
        cases there
        rfl)
      rw [Table.get_put, if_neg apart, same]
    · rfl

theorem update_works {f : RawCursorState → RawCursorState} (result : ∀ t, (f t).result = t.result)
    (fetches : ∀ t, (f t).fetchFaults = t.fetchFaults) (scrolls : ∀ t, (f t).scrollFaults = t.scrollFaults) :
    q.Works [] w ((q.update f).after w) := by
  have turned : q.record ((q.update f).after w) = f (q.record w) := q.record_updated f w
  refine ⟨adds_same rfl, q.update_confined f w, ?_, update_opened f, ?_, ?_, fun _ absurd => by cases absurd⟩
  · rw [turned, result]
  · rw [turned, fetches]
    rfl
  · rw [turned, scrolls]
    exact List.Subset.refl _

theorem call_works {call : Call} {fault : Option Fault} {f : RawCursorState → RawCursorState}
    (result : ∀ t, (f t).result = t.result)
    (fetches : ∀ t, (f t).fetchFaults = t.fetchFaults.drop (q.fetched [(call, fault)]).length)
    (scrolls : ∀ t, (f t).scrollFaults ⊆ t.scrollFaults)
    (scheduled : ∀ g, call = .fetch q → fault = some g → some g ∈ (q.record w).fetchFaults) :
    q.Works [(call, fault)] w { (q.update f).after w with history := .call call fault :: w.history } := by
  have turned : q.record ((q.update f).after w) = f (q.record w) := q.record_updated f w
  have kept : q.record { (q.update f).after w with history := .call call fault :: w.history } = f (q.record w) := turned
  have own := q.update_confined f w
  refine ⟨adds_call rfl, ⟨own.world, own.connections, own.cursors⟩, ?_, update_opened f, ?_, ?_, fun g member => ?_⟩
  · rw [kept, result]
  · rw [kept, fetches]
  · rw [kept]
    exact scrolls _
  · cases List.mem_singleton.mp member
    exact scheduled g rfl rfl

theorem due_mem {s : Schedule} {g : Fault} (due : s.due = some g) : some g ∈ s := by
  cases s with
  | nil => cases due
  | cons first rest =>
      have same : first = some g := due
      exact same ▸ List.mem_cons_self

def results (q : RawCursor) (w : World) : List Result := (w.connections.get q.connection.index).results

theorem execute_runs (q : RawCursor) (sql : String) (parameters : Option (List Value)) (w : World) :
    ∃ w', Adds [(.execute q sql parameters, ((q.results w).head?.getD default).fault)] w w' ∧
      (q.Opened w → q.Opened w') ∧ q.results w' = (q.results w).tail ∧ w'.statements = w.statements ∧
      (((q.results w).head?.getD default).fault = none ∧ q.execute sql parameters w = .ok () w' ∧
          q.record w' = ((q.results w).head?.getD default).opened ∨
        ∃ g, ((q.results w).head?.getD default).fault = some g ∧ q.execute sql parameters w = .error g.raised w') := by
  let t := w.connections.get q.connection.index
  let result := (q.results w).head?.getD default
  let w₁ := { w with connections := w.connections.put q.connection.index { t with results := t.results.tail } }
  let w₂ := (q.update fun _ => if result.fault.isSome then default else result.opened).after w₁
  let w₃ := { w₂ with history := .call (.execute q sql parameters) result.fault :: w₂.history }
  have begun : q.execute sql parameters w = attempt (.execute q sql parameters) result.fault w₂ := rfl
  have taken : w₁.connections.get q.connection.index = { t with results := t.results.tail } := by
    simp only [w₁, Table.get_put, if_true]
  have turned : w₂.connections.get q.connection.index = { w₁.connections.get q.connection.index with
      cursors := (w₁.connections.get q.connection.index).cursors.put q.index
        (if result.fault.isSome then default else result.opened) } :=
    (Table.get_put _ _ _ _).trans (if_pos rfl)
  have same : w₃.connections = w₂.connections := rfl
  refine ⟨w₃, adds_call rfl, fun opened => ?_, ?_, rfl, ?_⟩
  · rw [RawCursor.Opened, same, turned, taken]
    exact opened
  · rw [results, same, turned, taken]
    rfl
  · cases due : result.fault with
    | none =>
        have placed : q.record w₂ = if result.fault.isSome then default else result.opened := q.record_updated _ w₁
        rw [due] at placed
        have ran : attempt (.execute q sql parameters) result.fault w₂ = .ok () w₃ := by
          simp only [w₃, due]
          rfl
        exact Or.inl ⟨rfl, begun.trans ran, placed⟩
    | some g =>
        have failed : attempt (.execute q sql parameters) result.fault w₂ = .error g.raised w₃ := by
          simp only [w₃, due]
          rfl
        exact Or.inr ⟨g, rfl, begun.trans failed⟩

theorem fetch_runs (q : RawCursor) (w : World) :
    ((q.record w).fetchFaults.due = none ∧ ∃ w', q.fetch w = .ok (q.rest w).head? w' ∧
      q.Works [(.fetch q, none)] w w' ∧ q.position w' = q.position w + min 1 (q.rest w).length ∧
      w'.rowCursors = w.rowCursors) ∨
    ∃ g, (q.record w).fetchFaults.due = some g ∧ ∃ w', q.fetch w = .error g.raised w' ∧
      q.Works [(.fetch q, some g)] w w' ∧ q.position w' = q.position w ∧ w'.rowCursors = w.rowCursors := by
  let t := q.record w
  let w₁ := (q.update fun t => { t with fetchFaults := t.fetchFaults.tail }).after w
  have looked : q.state w = .ok t w := rfl
  have taken : q.update (fun t => { t with fetchFaults := t.fetchFaults.tail }) w = .ok () w₁ := rfl
  have noted : ∀ fault, (∀ g, fault = some g → some g ∈ t.fetchFaults) →
      q.Works [(.fetch q, fault)] w { w₁ with history := .call (.fetch q) fault :: w.history } := fun fault scheduled =>
    call_works (fun _ => rfl) (fun t => by rw [fetched_fetch]; exact List.drop_one.symm) (fun _ => List.Subset.refl _)
      fun g _ => scheduled g
  have spent : q.record w₁ = { t with fetchFaults := t.fetchFaults.tail } := record_updated q _ w
  cases due : t.fetchFaults.due with
  | some g =>
      right
      refine ⟨g, rfl, _, by rw [fetch, bind_of_ok looked, bind_of_ok taken, due]; rfl,
        noted (some g) fun _ same => same ▸ due_mem due, ?_, rfl⟩
      change (q.record w₁).position = t.position
      rw [spent]
  | none =>
      left
      let w₂ := { w₁ with history := .call (.fetch q) none :: w₁.history }
      have works : q.Works [(.fetch q, none)] w w₂ := noted none fun _ absurd => by cases absurd
      have kept : q.record w₂ = { t with fetchFaults := t.fetchFaults.tail } := spent
      have head : (q.rest w).head? = t.result.rows[t.position]? := List.head?_drop
      have size : (q.rest w).length = t.result.rows.length - t.position := List.length_drop
      rw [fetch, bind_of_ok looked, bind_of_ok taken, due, head, size]
      cases next : t.result.rows[t.position]? with
      | none =>
          have behind := List.getElem?_eq_none_iff.mp next
          refine ⟨rfl, w₂, rfl, works, ?_, rfl⟩
          change (q.record w₂).position = t.position + _
          rw [kept]
          dsimp only
          omega
      | some values =>
          have before := (List.getElem?_eq_some_iff.mp next).1
          let w₃ := (q.update fun t => { t with position := t.position + 1 }).after w₂
          have stepped : q.record w₃ = { t with fetchFaults := t.fetchFaults.tail, position := t.position + 1 } := by
            rw [record_updated q _ w₂, kept]
          have steps : q.Works [] w₂ w₃ := update_works (fun _ => rfl) (fun _ => rfl) fun _ => rfl
          refine ⟨rfl, w₃, rfl, by simpa using works_trans works steps, ?_, rfl⟩
          change (q.record w₃).position = t.position + _
          rw [stepped]
          dsimp only
          omega

theorem scroll_runs (q : RawCursor) (position : Int) (w : World) :
    (∃ w', q.scroll position w = .ok () w' ∧ q.Works [(.scroll q position, none)] w w' ∧ 0 ≤ position ∧
      position < (q.rows w).length ∧ q.position w' = position.toNat ∧ w'.rowCursors = w.rowCursors) ∨
    ∃ g w', q.scroll position w = .error g.raised w' ∧ q.Works [(.scroll q position, some g)] w w' ∧
      (some g ∈ (q.record w).scrollFaults ∨ g.kind = .index ∧ (position < 0 ∨ (q.rows w).length ≤ position)) ∧
      q.position w' = q.position w ∧ w'.rowCursors = w.rowCursors := by
  let t := q.record w
  let w₁ := (q.update fun t => { t with scrollFaults := t.scrollFaults.tail }).after w
  have begun : q.scroll position w = (attempt (.scroll q position) (t.scrollFaults.due.or (destination t position)) >>= fun _ =>
      q.update fun t => { t with position := position.toNat }) w₁ := rfl
  have spent : q.record w₁ = { t with scrollFaults := t.scrollFaults.tail } := record_updated q _ w
  have noted : ∀ fault, q.Works [(.scroll q position, fault)] w
      { w₁ with history := .call (.scroll q position) fault :: w₁.history } := fun _ =>
    call_works (fun _ => rfl) (fun _ => rfl) (fun t => (List.tail_sublist t.scrollFaults).subset) fun _ absurd => by cases absurd
  have stayed : q.position w₁ = q.position w := by
    rw [RawCursor.position, spent]
    rfl
  cases due : t.scrollFaults.due with
  | some g =>
      right
      exact ⟨g, _, by rw [begun, due]; rfl, noted (some g), Or.inl (due_mem due), stayed, rfl⟩
  | none =>
      by_cases outside : position < 0 ∨ position ≥ t.result.rows.length
      · right
        have refused : destination t position = some (Kind.index.fault "scroll destination out of bounds") := if_pos outside
        exact ⟨_, _, by rw [begun, due, Option.none_or, refused]; rfl, noted (some _), Or.inr ⟨rfl, outside⟩, stayed, rfl⟩
      · left
        have reached : destination t position = none := if_neg outside
        let w₂ := { w₁ with history := .call (.scroll q position) none :: w₁.history }
        let w₃ := (q.update fun t => { t with position := position.toNat }).after w₂
        have placed : q.record w₃ = { q.record w₂ with position := position.toNat } := record_updated q _ w₂
        have places : q.Works [] w₂ w₃ := update_works (fun _ => rfl) (fun _ => rfl) fun _ => rfl
        have low : 0 ≤ position := by omega
        have high : position < t.result.rows.length := by omega
        refine ⟨w₃, by rw [begun, due, Option.none_or, reached]; rfl, by simpa using works_trans (noted none) places,
          low, high, ?_, rfl⟩
        rw [RawCursor.position, placed]

end RawCursor

namespace RowCursor

theorem shows_head (r : RowCursor) (rows : List (List Value)) :
    rows.head?.map (fun values => (⟨values, r.columns⟩ : Row)) = (r.shows rows).head? :=
  List.head?_map.symm

theorem set_row_works (r : RowCursor) (row : Option Row) (w : World) :
    ∃ w', r.setRow row w = .ok () w' ∧ r.cursor.Works [] w w' ∧ r.cursor.position w' = r.cursor.position w ∧
      r.current w' = row := by
  refine ⟨_, rfl, { works_refl r.cursor w with adds := adds_same rfl, confined := ⟨rfl, fun _ => rfl, fun _ _ => rfl⟩ }, rfl, ?_⟩
  · rw [current, Table.get_put, if_pos rfl]

theorem advance_runs (r : RowCursor) (w : World) :
    ((r.cursor.record w).fetchFaults.due = none ∧ ∃ w', r.advance w = .ok (r.shows (r.cursor.rest w)).head? w' ∧
      r.cursor.Works [(.fetch r.cursor, none)] w w' ∧
      r.cursor.position w' = r.cursor.position w + min 1 (r.cursor.rest w).length ∧
      r.current w' = (r.shows (r.cursor.rest w)).head?) ∨
    ∃ g, (r.cursor.record w).fetchFaults.due = some g ∧ ∃ w',
      r.advance w = .error (g.raised.wrapped .execution "Failed to fetch row") w' ∧
      r.cursor.Works [(.fetch r.cursor, some g)] w w' ∧ r.cursor.position w' = r.cursor.position w ∧
      r.current w' = r.current w := by
  rcases r.cursor.fetch_runs w with ⟨clear, w₁, fetched, works, stepped, _⟩ | ⟨g, due, w₁, failed, works, stayed, same⟩
  · left
    let row := (r.cursor.rest w).head?.map fun values => (⟨values, r.columns⟩ : Row)
    obtain ⟨w₂, set, quiet, still, current⟩ := r.set_row_works row w₁
    have ran : wrapping .execution "Failed to fetch row" r.cursor.fetch w = .ok (r.cursor.rest w).head? w₁ :=
      on_ordinary_of_ok fetched
    rw [← shows_head]
    refine ⟨clear, w₂, ?_, by simpa using works_trans works quiet, still.trans stepped, current⟩
    rw [advance, bind_of_ok ran]
    exact bind_of_ok set
  · right
    refine ⟨g, due, w₁, bind_of_error (wrapping_of_error failed .execution _), works, stayed, ?_⟩
    rw [current, same]
    rfl

theorem next_runs (r : RowCursor) (w : World) :
    (∃ w', r.next w = .ok (r.shows (r.cursor.rest w)).head?.isSome w' ∧ r.cursor.Works [(.fetch r.cursor, none)] w w' ∧
      r.cursor.position w' = r.cursor.position w + min 1 (r.cursor.rest w).length ∧
      r.current w' = (r.shows (r.cursor.rest w)).head?) ∨
    ∃ g w', r.next w = .error (g.raised.wrapped .execution "Failed to fetch row") w' ∧
      r.cursor.Works [(.fetch r.cursor, some g)] w w' ∧ r.cursor.position w' = r.cursor.position w ∧
      r.current w' = r.current w := by
  rcases r.advance_runs w with ⟨_, w₁, ran, step⟩ | ⟨g, _, w₁, failed, step⟩
  · exact Or.inl ⟨w₁, bind_of_ok ran, step⟩
  · exact Or.inr ⟨g, w₁, bind_of_error failed, step⟩

theorem advance_stands {t : Result} {k : Nat} (stands : r.cursor.Stands t k w) :
    ∃ w', r.advance w = .ok (r.shows t.rows)[k]? w' ∧ r.cursor.Works [(.fetch r.cursor, none)] w w' ∧
      r.cursor.Stands t (min (k + 1) t.rows.length) w' ∧ r.current w' = (r.shows t.rows)[k]? := by
  have rest := rest_of_stands stands
  have head : (r.shows (r.cursor.rest w)).head? = (r.shows t.rows)[k]? := by
    rw [rest, shows, List.map_drop, List.head?_drop]
    rfl
  have left : (r.cursor.rest w).length = t.rows.length - k := by rw [rest, List.length_drop]
  rcases r.advance_runs w with ⟨_, w', ran, works, stepped, current⟩ | ⟨g, _, w', _, works, _⟩
  · rw [head] at ran current
    rw [left, stands.position] at stepped
    have inside := stands.inside
    exact ⟨w', ran, works, stands_after works stands (by omega) (by omega), current⟩
  · exact (works_unwilling works (List.mem_singleton_self _) stands.willing).elim

theorem next_stands {t : Result} {k : Nat} (stands : r.cursor.Stands t k w) :
    ∃ w', r.next w = .ok (r.shows t.rows)[k]?.isSome w' ∧
      r.cursor.Stands t (min (k + 1) t.rows.length) w' ∧ r.current w' = (r.shows t.rows)[k]? := by
  obtain ⟨w', advanced, _, step⟩ := advance_stands stands
  exact ⟨w', bind_of_ok advanced, step⟩

theorem skip_runs (r : RowCursor) (offset : Int) (n skipped : Nat) (w : World) :
    (n ≤ (r.cursor.rest w).length ∧ ∃ w', r.skip offset n skipped w = .ok true w' ∧
      r.cursor.Works (r.cursor.fetching n) w w' ∧ r.cursor.position w' = r.cursor.position w + n) ∨
    ((r.cursor.rest w).length < n ∧ ∃ w', r.skip offset n skipped w = .ok false w' ∧
      r.cursor.Works (r.cursor.fetching ((r.cursor.rest w).length + 1)) w w' ∧
      r.cursor.position w' = r.cursor.position w + (r.cursor.rest w).length) ∨
    ∃ k g w', k < n ∧ k ≤ (r.cursor.rest w).length ∧
      r.skip offset n skipped w = .error (g.raised.wrapped .execution "Failed to fetch row") w' ∧
      r.cursor.Works (r.cursor.fetching k ++ [(.fetch r.cursor, some g)]) w w' := by
  induction n generalizing skipped w with
  | zero => exact Or.inl ⟨Nat.zero_le _, w, rfl, works_refl r.cursor w, rfl⟩
  | succ n ih =>
      have size : (r.cursor.rest w).length = (r.cursor.rows w).length - r.cursor.position w := List.length_drop
      rcases r.next_runs w with ⟨w₁, ran, works, stepped, _⟩ | ⟨g, w₁, failed, works, _⟩
      · cases here : r.cursor.rest w with
        | nil =>
            right; left
            rw [here] at ran stepped
            let text := "Cursor exhausted after " ++ toString skipped ++ " rows, offset " ++ toString offset ++ " unreachable"
            let w₂ := { w₁ with history := .log .cursor .debug text :: w₁.history }
            have noted : r.cursor.Works [] w₁ w₂ :=
              { works_refl r.cursor w₁ with adds := adds_log rfl, confined := ⟨rfl, fun _ => rfl, fun _ _ => rfl⟩ }
            refine ⟨Nat.succ_pos n, w₂, ?_, works_trans works noted, stepped⟩
            rw [skip, bind_of_ok ran]
            rfl
        | cons row rest =>
            rw [here, List.length_cons] at size
            rw [here] at ran stepped
            have onward : (r.cursor.rest w₁).length = rest.length := by
              rw [RawCursor.rest_of, List.length_drop, rows_after works, stepped, List.length_cons]
              omega
            have again : r.skip offset (n + 1) skipped w = r.skip offset n (skipped + 1) w₁ := by
              rw [skip, bind_of_ok ran]
              rfl
            rw [again, List.length_cons]
            rw [List.length_cons] at stepped
            rcases ih (skipped + 1) w₁ with ⟨inside, w', ran', later, there⟩ | ⟨beyond, w', ran', later, there⟩ |
              ⟨k, g, w', few, inside, failed, later⟩
            · rw [onward] at inside
              exact Or.inl ⟨by omega, w', ran', works_trans works later, by omega⟩
            · rw [onward] at beyond later there
              exact Or.inr (Or.inl ⟨by omega, w', ran', works_trans works later, by omega⟩)
            · rw [onward] at inside
              have both := works_trans works later
              rw [← List.append_assoc] at both
              exact Or.inr (Or.inr ⟨k + 1, g, w', by omega, by omega, failed, both⟩)
      · right; right
        exact ⟨0, g, w₁, Nat.succ_pos n, Nat.zero_le _, by rw [skip]; exact bind_of_error failed, works⟩

theorem jump_runs (r : RowCursor) (position : Int) (w : World) :
    (∃ w', r.jump position w = .ok true w' ∧ r.cursor.Works [(.scroll r.cursor (position - 1), none)] w w' ∧
      1 ≤ position ∧ position ≤ (r.cursor.rows w).length ∧ r.cursor.position w' = (position - 1).toNat ∧
      r.current w' = r.current w) ∨
    (∃ fault w', r.jump position w = .ok false w' ∧ r.cursor.Works [(.scroll r.cursor (position - 1), fault)] w w' ∧
      (r.cursor.Willing w → position < 1 ∨ (r.cursor.rows w).length < position) ∧
      r.cursor.position w' = r.cursor.position w ∧ r.current w' = r.current w) ∨
    ∃ fault e w', r.jump position w = .error e w' ∧ r.cursor.Works [(.scroll r.cursor (position - 1), fault)] w w' ∧
      ¬ r.cursor.Willing w := by
  rcases r.cursor.scroll_runs (position - 1) w with ⟨w₁, ran, works, low, high, there, same⟩ |
    ⟨g, w₁, failed, works, reason, stayed, same⟩
  · left
    refine ⟨w₁, on_ordinary_of_ok (bind_of_ok ran), works, by omega, by omega, there, ?_⟩
    rw [current, same]
    rfl
  · right
    have run : r.jump position w = if g.raised.isOrdinary then (if g.kind = .index then pure false else
        throw (g.raised.wrap .positioning ("Cannot move cursor to row " ++ toString position)) : Action Bool) w₁
        else .error g.raised w₁ := on_ordinary_of_error (bind_of_error failed)
    have unwilling : g.kind ≠ .index → ¬ r.cursor.Willing w := by
      intro other willing
      rcases reason with scheduled | ⟨index, _⟩
      · exact willing.scrolls g scheduled
      · exact other index
    by_cases index : g.kind = .index
    · left
      have ordinary : g.raised.isOrdinary = true := by
        change g.kind.isOrdinary = true
        rw [index]
        rfl
      rw [if_pos ordinary, if_pos index] at run
      refine ⟨some g, w₁, run, works, fun willing => ?_, stayed, by rw [current, same]; rfl⟩
      rcases reason with scheduled | ⟨_, outside⟩
      · exact absurd scheduled (willing.scrolls g)
      · omega
    · right
      by_cases ordinary : g.raised.isOrdinary = true
      · rw [if_pos ordinary, if_neg index] at run
        exact ⟨some g, _, w₁, run, works, unwilling index⟩
      · rw [if_neg ordinary] at run
        exact ⟨some g, _, w₁, run, works, unwilling index⟩

theorem row_count_runs (r : RowCursor) (w : World) :
    (∃ n, r.rowCount w = .ok n w ∧ ((r.cursor.record w).result.rowCount = .gives (some n) ∨ n = -1)) ∨
    ∃ e, r.rowCount w = .error e w ∧ ¬ r.cursor.Willing w := by
  have read : r.cursor.rowCount w = (r.cursor.record w).result.rowCount.get w := rfl
  cases counts : (r.cursor.record w).result.rowCount with
  | gives n =>
      left
      rw [counts] at read
      refine ⟨n.getD (-1), bind_of_ok (or_missing_of_ok read none), ?_⟩
      cases n with
      | none => exact Or.inr rfl
      | some n => exact Or.inl rfl
  | raises g =>
      rw [counts] at read
      have unwilling : ¬ r.cursor.Willing w := fun willing => by
        obtain ⟨n, given⟩ := willing.counts
        rw [counts] at given
        cases given
      have failed : r.cursor.rowCount w = .error g.raised w := read
      by_cases missing : g.raised.kind = .attribute
      · left
        exact ⟨-1, bind_of_ok (or_missing_of_error failed missing none), Or.inr rfl⟩
      · right
        exact ⟨g.raised, bind_of_error (or_missing_of_other failed missing none), unwilling⟩

theorem scrolls_runs (r : RowCursor) (w : World) :
    r.scrolls w = .ok (r.cursor.record w).result.scrolls w ∨
    ∃ e, r.scrolls w = .error e w ∧ ¬ (r.cursor.record w).result.scrolls ∧ ¬ r.cursor.Willing w := by
  have read : r.cursor.scrollSupport w = (r.cursor.record w).result.scroll.get w := rfl
  unfold Result.scrolls
  cases told : (r.cursor.record w).result.scroll with
  | gives support =>
      left
      rw [told] at read
      exact bind_of_ok (or_missing_of_ok read .absent)
  | raises g =>
      rw [told] at read
      have failed : r.cursor.scrollSupport w = .error g.raised w := read
      by_cases missing : g.raised.kind = .attribute
      · left
        exact bind_of_ok (or_missing_of_error failed missing .absent)
      · right
        exact ⟨g.raised, bind_of_error (or_missing_of_other failed missing .absent), Bool.false_ne_true,
          fun willing => missing (willing.scroll g told)⟩

theorem scrolls_of (scrolls : (r.cursor.record w).result.scrolls) : r.scrolls w = .ok true w := by
  rcases r.scrolls_runs w with asked | ⟨_, _, fixed, _⟩
  · rw [asked, scrolls]
  · exact absurd scrolls fixed

-- The row at `position` becomes the current one, and the driver stands behind it; or nothing changes.
inductive GoesTo (r : RowCursor) (position : Int) (w : World) : Calls → EStateM.Result Failure World Bool → Prop where
  | arrived {calls : Calls} {w' : World} (works : r.cursor.Works calls w w') (moving : r.cursor.Moving calls)
      (few : (r.cursor.fetched calls).length ≤ 1) (inside : position ≤ (r.cursor.rows w).length)
      (there : r.cursor.position w' = position.toNat)
      (current : r.current w' = (r.shows (r.cursor.rows w))[(position - 1).toNat]?) : GoesTo r position w calls (.ok true w')
  | beyond {calls : Calls} {w' : World} (works : r.cursor.Works calls w w') (trying : r.cursor.Trying calls)
      (few : (r.cursor.fetched calls).length ≤ 1)
      (short : r.cursor.Willing w → (r.cursor.record w).result.Honest → (r.cursor.rows w).length < position)
      (stayed : r.cursor.position w' = r.cursor.position w) (current : r.current w' = r.current w) :
      GoesTo r position w calls (.ok false w')
  | failed {calls : Calls} {e : Failure} {w' : World} (works : r.cursor.Works calls w w') (trying : r.cursor.Trying calls)
      (unwilling : ¬ r.cursor.Willing w) : GoesTo r position w calls (.error e w')

theorem jump_next_runs (r : RowCursor) {position : Int} (low : 1 ≤ position) (w : World) :
    ∃ calls, r.GoesTo position w calls ((r.jump position >>= fun there => if there then r.next else pure false) w) := by
  have unfetched : ∀ fault, r.cursor.fetched [(.scroll r.cursor (position - 1), fault)] = [] :=
    fun fault => r.cursor.fetched_idle fun made member => by rw [List.mem_singleton.mp member]; rfl
  rcases r.jump_runs position w with ⟨w₁, jumped, works, _, high, there, _⟩ |
    ⟨fault, w₁, refused, works, beyond, stayed, current⟩ | ⟨fault, e, w₁, failed, works, unwilling⟩
  · rw [bind_of_ok jumped, if_pos rfl]
    have moving : r.cursor.Moving [(.scroll r.cursor (position - 1), none)] := fun made member => by
      rw [List.mem_singleton.mp member]
      exact ⟨Or.inr ⟨_, rfl⟩, rfl⟩
    have rows : (r.shows (r.cursor.rest w₁)).head? = (r.shows (r.cursor.rows w))[(position - 1).toNat]? := by
      rw [RawCursor.rest_of, rows_after works, there, shows, List.map_drop, List.head?_drop]
      rfl
    have more : (position - 1).toNat < (r.shows (r.cursor.rows w)).length := by
      rw [shows, List.length_map]
      omega
    rcases r.next_runs w₁ with ⟨w₂, ran, works', stepped, current⟩ | ⟨g, w₂, failed, works', _⟩
    · rw [ran, rows, List.getElem?_eq_getElem more]
      have left : 0 < (r.cursor.rest w₁).length := by
        rw [RawCursor.rest_of, List.length_drop, rows_after works, there]
        omega
      refine ⟨_, .arrived (works_trans works works') (moving_append moving (moving_fetching _ 1)) ?_ high (by omega)
        (current.trans rows)⟩
      rw [RawCursor.fetched_append, unfetched, RawCursor.fetched_fetch]
      exact Nat.le_refl 1
    · rw [failed]
      refine ⟨_, .failed (works_trans works works') (trying_append moving (trying_one (Or.inl rfl) (some g))) fun willing => ?_⟩
      exact works_unwilling works' (List.mem_singleton_self _) (willing_after works willing)
  · rw [bind_of_ok refused, if_neg (by decide)]
    refine ⟨_, .beyond works (trying_one (Or.inr ⟨_, rfl⟩) fault) ?_ (fun willing _ => ?_) stayed current⟩
    · rw [unfetched]
      exact Nat.zero_le 1
    · have outside := beyond willing
      omega
  · rw [bind_of_error failed]
    exact ⟨_, .failed works (trying_one (Or.inr ⟨_, rfl⟩) fault) unwilling⟩

theorem go_to_runs (r : RowCursor) {position : Int} (low : 1 ≤ position) (w : World)
    (scrolls : (r.cursor.record w).result.scrolls) : ∃ calls, r.GoesTo position w calls (r.goTo position w) := by
  have begun : r.goTo position w = (r.rowCount >>= fun count =>
      if 0 ≤ count ∧ count < position then pure false
      else r.jump position >>= fun there => if there then r.next else pure false) w := by
    rw [goTo, if_neg (by omega), bind_of_ok (scrolls_of scrolls)]
    rfl
  rw [begun]
  have nothing : r.cursor.Trying [] := trying_of_moving (moving_nothing _)
  rcases r.row_count_runs w with ⟨n, counted, told⟩ | ⟨e, failed, unwilling⟩
  · rw [bind_of_ok counted]
    by_cases short : 0 ≤ n ∧ n < position
    · rw [if_pos short]
      refine ⟨[], .beyond (works_refl _ w) nothing (Nat.zero_le 1) (fun _ truth => ?_) rfl rfl⟩
      rcases told with given | unknown
      · rcases truth n given with negative | enough
        · omega
        · exact Int.lt_of_le_of_lt enough short.2
      · omega
    · rw [if_neg short]
      exact r.jump_next_runs low w
  · rw [bind_of_error failed]
    exact ⟨[], .failed (works_refl _ w) nothing unwilling⟩

theorem go_to_stands {t : Result} {k : Nat} {position : Int} (low : 1 ≤ position) (scrolls : t.scrolls)
    (honest : t.Honest) (stands : r.cursor.Stands t k w) :
    (position ≤ t.rows.length ∧ ∃ w', r.goTo position w = .ok true w' ∧
      r.cursor.Stands t position.toNat w' ∧ r.current w' = (r.shows t.rows)[(position - 1).toNat]?) ∨
    (t.rows.length < position ∧ ∃ w', r.goTo position w = .ok false w' ∧
      r.cursor.Stands t k w' ∧ r.current w' = r.current w) := by
  have rows := rows_of_stands stands
  obtain ⟨calls, goes⟩ := r.go_to_runs low w (by rw [stands.result]; exact scrolls)
  generalize ran : r.goTo position w = result at goes
  cases goes with
  | arrived works _ _ inside there current =>
      rw [rows] at inside current
      exact Or.inl ⟨inside, _, rfl, stands_after works stands there (by omega), current⟩
  | beyond works _ _ short stayed current =>
      have few := short stands.willing (by rw [stands.result]; exact honest)
      rw [rows] at few
      exact Or.inr ⟨few, _, rfl, stands_after works stands (stayed.trans stands.position) stands.inside, current⟩
  | failed _ _ unwilling => exact (unwilling stands.willing).elim

-- From a place behind `k` rows of the result, the driver gets to the start of the page, or finds that there is no
-- such place; what it fetches on the way is skipped. It may also fail, and one that cannot jump fails at its last
-- fetch, or before any.
inductive MovesTo (r : RowCursor) (t : Result) (k : Nat) (offset : Int) (w : World) :
    Calls → EStateM.Result Failure World Bool → Prop where
  | arrived {calls : Calls} {w' : World} (works : r.cursor.Works calls w w') (moving : r.cursor.Moving calls)
      (few : (r.cursor.fetched calls).length ≤ min (max (offset - 1) 0).toNat (t.rows.length - k + 1))
      (inside : 1 < offset → t.pageStart k offset ≤ t.rows.length) (there : r.cursor.position w' = t.pageStart k offset)
      (skipped : ¬ t.scrolls → r.cursor.fetched calls = List.replicate (max (offset - 1) 0).toNat none) :
      MovesTo r t k offset w calls (.ok true w')
  | beyond {calls : Calls} {w' : World} (works : r.cursor.Works calls w w') (trying : r.cursor.Trying calls)
      (few : (r.cursor.fetched calls).length ≤ min (max (offset - 1) 0).toNat (t.rows.length - k + 1))
      (short : r.cursor.Willing w → t.Honest → t.rows.length < t.pageStart k offset)
      (there : r.cursor.position w' = k + if t.scrolls then 0 else t.rows.length - k)
      (skipped : ¬ t.scrolls → t.rows.length - k < (max (offset - 1) 0).toNat ∧
        r.cursor.fetched calls = List.replicate (t.rows.length - k + 1) none) : MovesTo r t k offset w calls (.ok false w')
  | failed {calls : Calls} {e : Failure} {w' : World} (works : r.cursor.Works calls w w') (trying : r.cursor.Trying calls)
      (unwilling : ¬ r.cursor.Willing w)
      (breaks : ¬ t.scrolls → ∃ n, n ≤ (max (offset - 1) 0).toNat ∧
        Breaks n (r.cursor.fetched calls) (.error e : Except Failure Bool)) : MovesTo r t k offset w calls (.error e w')

theorem move_by_jump {offset : Int} (below : 1 < offset) (scrolls : (r.cursor.record w).result.scrolls) :
    ∃ calls, r.MovesTo (r.cursor.record w).result (r.cursor.position w) offset w calls (r.goTo (offset - 1) w) := by
  have start : (r.cursor.record w).result.pageStart (r.cursor.position w) offset = (offset - 1).toNat := by
    rw [Result.pageStart, if_pos scrolls, if_neg (by omega)]
  have first : 1 ≤ offset - 1 := by omega
  obtain ⟨calls, goes⟩ := r.go_to_runs first w scrolls
  generalize ran : r.goTo (offset - 1) w = result at goes
  refine ⟨calls, ?_⟩
  cases goes with
  | arrived works moving few inside there _ =>
      refine .arrived works moving (by omega) (fun _ => ?_) (there.trans start.symm) fun fixed => absurd scrolls fixed
      rw [start]
      exact Int.toNat_le.mpr inside
  | beyond works trying few short stayed _ =>
      refine .beyond works trying (by omega) (fun willing honest => ?_) ?_ fun fixed => absurd scrolls fixed
      · have beyond := short willing honest
        rw [start]
        exact Int.lt_toNat.mpr beyond
      · rw [if_pos scrolls]
        exact stayed
  | failed works trying unwilling => exact .failed works trying unwilling fun fixed => absurd scrolls fixed

theorem move_by_skip {offset : Int} (below : 1 < offset) (fixed : ¬ (r.cursor.record w).result.scrolls) :
    ∃ calls, r.MovesTo (r.cursor.record w).result (r.cursor.position w) offset w calls
      (r.skip offset (offset - 1).toNat 0 w) := by
  have count : (max (offset - 1) 0).toNat = (offset - 1).toNat := by omega
  have start : (r.cursor.record w).result.pageStart (r.cursor.position w) offset =
      r.cursor.position w + (offset - 1).toNat := by
    rw [Result.pageStart, if_neg fixed, count]
  have left : (r.cursor.rest w).length = (r.cursor.record w).result.rows.length - r.cursor.position w := List.length_drop
  rcases r.skip_runs offset (offset - 1).toNat 0 w with ⟨enough, w', ran, works, there⟩ |
    ⟨beyond, w', ran, works, there⟩ | ⟨n, g, w', few, _, failed, works⟩
  · rw [ran]
    have skipped := r.cursor.fetched_fetching (offset - 1).toNat
    refine ⟨_, .arrived works (moving_fetching _ _) ?_ (fun _ => by omega) (there.trans start.symm) fun _ => ?_⟩
    · rw [skipped, List.length_replicate]
      omega
    · rw [skipped, count]
  · rw [ran]
    have skipped := r.cursor.fetched_fetching ((r.cursor.rest w).length + 1)
    refine ⟨_, .beyond works (trying_of_moving (moving_fetching _ _)) ?_ (fun _ _ => by omega) ?_ fun _ => ⟨by omega, ?_⟩⟩
    · rw [skipped, List.length_replicate]
      omega
    · rw [if_neg fixed, ← left]
      exact there
    · rw [skipped, left]
  · rw [failed]
    refine ⟨_, .failed works (trying_append (moving_fetching _ _) (trying_one (Or.inl rfl) _)) ?_
      fun _ => ⟨n, by omega, Or.inr ⟨g, ?_, rfl⟩⟩⟩
    · exact works_unwilling works (List.mem_append_right _ (List.mem_singleton_self _))
    · rw [RawCursor.fetched_append, RawCursor.fetched_fetching, RawCursor.fetched_fetch]

theorem move_to_runs (r : RowCursor) (offset : Int) (w : World) :
    ∃ calls, r.MovesTo (r.cursor.record w).result (r.cursor.position w) offset w calls (r.moveTo offset w) := by
  rw [moveTo]
  by_cases top : offset ≤ 1
  · have none : (max (offset - 1) 0).toNat = 0 := by omega
    have start : (r.cursor.record w).result.pageStart (r.cursor.position w) offset = r.cursor.position w := by
      rw [Result.pageStart, if_pos top, none]
      split <;> rfl
    rw [if_pos top]
    refine ⟨[], .arrived (works_refl r.cursor w) (moving_nothing _) (Nat.zero_le _) (fun below => by omega) start.symm fun _ => ?_⟩
    rw [none]
    rfl
  · rw [if_neg top]
    rcases r.scrolls_runs w with asked | ⟨e, failed, fixed, unwilling⟩
    · rw [bind_of_ok asked]
      by_cases scrolls : (r.cursor.record w).result.scrolls
      · rw [if_pos scrolls]
        exact move_by_jump (by omega) scrolls
      · rw [if_neg scrolls]
        exact move_by_skip (by omega) scrolls
    · rw [bind_of_error failed]
      exact ⟨[], .failed (works_refl r.cursor w) (trying_of_moving (moving_nothing _)) unwilling
        fun _ => ⟨0, Nat.zero_le _, Or.inl rfl⟩⟩

theorem move_to_stands {t : Result} {k : Nat} (offset : Int) (honest : t.Honest) (stands : r.cursor.Stands t k w) :
    ∃ calls w', r.cursor.Works calls w w' ∧ r.cursor.Trying calls ∧
      (r.cursor.fetched calls).length ≤ min (max (offset - 1) 0).toNat (t.rows.length + 1) ∧
      (t.pageStart k offset ≤ t.rows.length ∧ r.moveTo offset w = .ok true w' ∧
          r.cursor.Stands t (t.pageStart k offset) w' ∨
        t.rows.length < t.pageStart k offset ∧ r.moveTo offset w = .ok false w' ∧
          r.cursor.Stands t (if t.scrolls then k else t.rows.length) w') := by
  have inside := stands.inside
  obtain ⟨calls, moves⟩ := r.move_to_runs offset w
  rw [stands.result, stands.position] at moves
  generalize ran : r.moveTo offset w = result at moves
  cases moves with
  | arrived works moving few place there _ =>
      have place : t.pageStart k offset ≤ t.rows.length := by
        by_cases top : offset ≤ 1
        · have none : (max (offset - 1) 0).toNat = 0 := by omega
          rw [Result.pageStart, if_pos top, none]
          split <;> omega
        · exact place (by omega)
      exact ⟨calls, _, works, trying_of_moving moving, by omega, Or.inl ⟨place, rfl, stands_after works stands there place⟩⟩
  | beyond works trying few short there _ =>
      refine ⟨calls, _, works, trying, by omega, Or.inr ⟨short stands.willing honest, rfl, ?_⟩⟩
      refine stands_after works stands (there.trans ?_) ?_
      · split <;> omega
      · split <;> omega
  | failed _ _ unwilling => exact absurd stands.willing unwilling

end RowCursor

end SqlScope
