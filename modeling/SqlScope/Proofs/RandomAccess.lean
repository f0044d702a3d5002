import SqlScope.Proofs.CursorSteps

set_option autoImplicit false

namespace SqlScope

open SqlScope.Action

variable {r : RowCursor} {t : Result} {w : World}

inductive Access where
  | next
  | goTo (position : Int)
  | row

inductive Answer where
  | moved (there : Bool)
  | shown (row : Row)

def Access.run (r : RowCursor) : Access → Action Answer
  | next => do return .moved (← r.next)
  | goTo position => do return .moved (← r.goTo position)
  | row => do return .shown (← r.row)

-- Where the machine stands: so many rows are behind it, and one of them may be the current one.
structure Spot where
  position : Nat
  row : Option Row

namespace Spot

def access (rows : List Row) (spot : Spot) : Access → Except Failure Answer × Spot
  | .next =>
    match rows[spot.position]? with
    | some row => (.ok (.moved true), ⟨spot.position + 1, some row⟩)
    | none => (.ok (.moved false), ⟨spot.position, none⟩)
  | .goTo position =>
    if position < 1 then (.error (Kind.value.failure ("Row position must be >= 1, got " ++ toString position)), spot)
    else
      match rows[(position - 1).toNat]? with
      | some row => (.ok (.moved true), ⟨position.toNat, some row⟩)
      | none => (.ok (.moved false), spot)
  | .row =>
    match spot.row with
    | some row => (.ok (.shown row), spot)
    | none => (.error (Kind.positioning.failure "Cursor is not positioned on a row"), spot)

def accessAll (rows : List Row) (spot : Spot) : List Access → List (Except Failure Answer) × Spot
  | [] => ([], spot)
  | first :: rest =>
    let step := spot.access rows first
    let onward := step.2.accessAll rows rest
    (step.1 :: onward.1, onward.2)

end Spot

structure RowCursor.At (r : RowCursor) (t : Result) (spot : Spot) (w : World) : Prop
    extends r.cursor.Stands t spot.position w where
  row : r.current w = spot.row

namespace RowCursor

theorem next_simulates {spot : Spot} (stands : r.At t spot w) :
    ∃ w', outcome (Access.next.run r) w = .ok (spot.access (r.shows t.rows) .next).1 w' ∧
      r.At t (spot.access (r.shows t.rows) .next).2 w' := by
  obtain ⟨w', ran, onward, current⟩ := next_stands stands.toStands
  have asked : Access.next.run r w = .ok (.moved (r.shows t.rows)[spot.position]?.isSome) w' := bind_of_ok ran
  have size : (r.shows t.rows).length = t.rows.length := List.length_map _
  have inside := stands.inside
  cases here : (r.shows t.rows)[spot.position]? with
  | none =>
      have behind := List.getElem?_eq_none_iff.mp here
      have last : min (spot.position + 1) t.rows.length = spot.position := by omega
      rw [here] at asked current
      rw [last] at onward
      simp only [Spot.access, here]
      exact ⟨w', outcome_of_ok asked, onward, current⟩
  | some row =>
      have before := (List.getElem?_eq_some_iff.mp here).1
      have more : min (spot.position + 1) t.rows.length = spot.position + 1 := by omega
      rw [here] at asked current
      rw [more] at onward
      simp only [Spot.access, here]
      exact ⟨w', outcome_of_ok asked, onward, current⟩

theorem go_to_simulates {spot : Spot} (scrolls : t.scrolls) (honest : t.Honest) (position : Int)
    (stands : r.At t spot w) :
    ∃ w', outcome ((Access.goTo position).run r) w = .ok (spot.access (r.shows t.rows) (.goTo position)).1 w' ∧
      r.At t (spot.access (r.shows t.rows) (.goTo position)).2 w' := by
  by_cases low : position < 1
  · have refused : r.goTo position w =
        .error (Kind.value.failure ("Row position must be >= 1, got " ++ toString position)) w := by
      rw [goTo, if_pos low]
      rfl
    simp only [Spot.access, if_pos low]
    exact ⟨w, outcome_of_error (bind_of_error refused), stands⟩
  · have size : (r.shows t.rows).length = t.rows.length := List.length_map _
    have first : 1 ≤ position := by omega
    rcases go_to_stands first scrolls honest stands.toStands with
      ⟨high, w', ran, onward, current⟩ | ⟨beyond, w', ran, stayed, current⟩
    · have here := List.getElem?_eq_getElem (l := r.shows t.rows) (i := (position - 1).toNat) (by omega)
      simp only [Spot.access, if_neg low, here]
      exact ⟨w', outcome_of_ok (bind_of_ok ran), onward, current.trans here⟩
    · have nothing : (r.shows t.rows)[(position - 1).toNat]? = none := List.getElem?_eq_none (by omega)
      simp only [Spot.access, if_neg low, nothing]
      exact ⟨w', outcome_of_ok (bind_of_ok ran), stayed, current.trans stands.row⟩

theorem row_simulates {spot : Spot} (stands : r.At t spot w) :
    outcome (Access.row.run r) w = .ok (spot.access (r.shows t.rows) .row).1 w ∧
      (spot.access (r.shows t.rows) .row).2 = spot := by
  have looked : r.state w = .ok (w.rowCursors.get r.index) w := rfl
  have current : (w.rowCursors.get r.index).row = spot.row := stands.row
  cases here : spot.row with
  | none =>
      rw [here] at current
      have refused : r.row w = .error (Kind.positioning.failure "Cursor is not positioned on a row") w := by
        rw [row, bind_of_ok looked, current]
        rfl
      simp only [Spot.access, here]
      exact ⟨outcome_of_error (bind_of_error refused), trivial⟩
  | some found =>
      rw [here] at current
      have shown : r.row w = .ok found w := by
        rw [row, bind_of_ok looked, current]
        rfl
      simp only [Spot.access, here]
      exact ⟨outcome_of_ok (bind_of_ok shown), trivial⟩

theorem access_simulates {spot : Spot} (scrolls : t.scrolls) (honest : t.Honest) (a : Access)
    (stands : r.At t spot w) :
    ∃ w', outcome (a.run r) w = .ok (spot.access (r.shows t.rows) a).1 w' ∧
      r.At t (spot.access (r.shows t.rows) a).2 w' := by
  cases a with
  | next => exact next_simulates stands
  | goTo position => exact go_to_simulates scrolls honest position stands
  | row =>
      obtain ⟨ran, same⟩ := row_simulates stands
      exact ⟨w, ran, same.symm ▸ stands⟩

theorem accesses_simulate {spot : Spot} (scrolls : t.scrolls) (honest : t.Honest) (accesses : List Access)
    (stands : r.At t spot w) :
    ∃ w', (accesses.mapM fun a => outcome (a.run r)) w = .ok (spot.accessAll (r.shows t.rows) accesses).1 w' ∧
      r.At t (spot.accessAll (r.shows t.rows) accesses).2 w' := by
  induction accesses generalizing spot w with
  | nil => exact ⟨w, rfl, stands⟩
  | cons first rest ih =>
      obtain ⟨w₁, ran, onward⟩ := access_simulates scrolls honest first stands
      obtain ⟨w', ran', last⟩ := ih onward
      refine ⟨w', ?_, last⟩
      rw [List.mapM_cons, bind_of_ok ran, bind_of_ok ran']
      rfl

end RowCursor

-- Whatever is asked of a fresh cursor, and in whatever order, it answers as the machine does that starts before
-- the first row, and in the end it stands where the machine does.
theorem cursor_is_random_access (start : r.cursor.record w = t.opened) (fresh : r.current w = none)
    (willing : r.cursor.Willing w) (scrolls : t.scrolls) (honest : t.Honest) (accesses : List Access) :
    ∃ w', (accesses.mapM fun a => outcome (a.run r)) w =
        .ok ((⟨0, none⟩ : Spot).accessAll (r.shows t.rows) accesses).1 w' ∧
      r.At t ((⟨0, none⟩ : Spot).accessAll (r.shows t.rows) accesses).2 w' := by
  exact r.accesses_simulate scrolls honest accesses ⟨stands_opened start willing, fresh⟩

-- A driver that does not know the number of rows: the last row, one behind it, and one before the first.
theorem access_of_two_rows :
    let t : Result :=
      { (default : Result) with
        description := .gives (some [.full (.text "a") .null])
        rows := [[.int 1], [.int 2]]
        rowCount := .gives none
        scroll := .gives .method }
    let opening : Action RowCursor := Statement.openBound (.direct ⟨0⟩) "SELECT a FROM t" (Binder.ofGiven .nothing) >>= Statement.query
    let last (r : RowCursor) : Row := ⟨[.int 2], r.columns⟩
    ∃ r w w', opening (World.start [{ (default : RawConnectionState) with results := [t] }] default 0) = .ok r w ∧
      ([.row, .goTo 2, .goTo 3, .row, .next, .goTo 0].mapM fun a : Access => outcome (a.run r)) w =
        .ok [.error (Kind.positioning.failure "Cursor is not positioned on a row"), .ok (.moved true), .ok (.moved false),
          .ok (.shown (last r)), .ok (.moved false), .error (Kind.value.failure "Row position must be >= 1, got 0")] w' := by
  intro t opening last
  let w := opening.after (World.start [{ (default : RawConnectionState) with results := [t] }] default 0)
  let r : RowCursor := ⟨1, ⟨⟨0⟩, 0⟩, [⟨.text "a", .text "a", .null⟩]⟩
  have start : r.cursor.record w = t.opened := rfl
  have willing : r.cursor.Willing w :=
    { fetches := fun _ absurd => by cases absurd
      scrolls := fun _ absurd => by cases absurd
      counts := ⟨none, rfl⟩
      scroll := fun _ raises => by cases raises }
  have honest : t.Honest := fun _ absurd => by cases absurd
  obtain ⟨w', ran, _⟩ := cursor_is_random_access start rfl willing rfl honest
    [.row, .goTo 2, .goTo 3, .row, .next, .goTo 0]
  exact ⟨r, w, w', rfl, ran⟩

end SqlScope
