import Mathlib.Algebra.GroupWithZero.Nat
import SqlScope.Proofs.Pages

set_option autoImplicit false

namespace SqlScope

open SqlScope.Action

variable {α : Type} {r : RowCursor} {t : Result} {k : Nat} {f : Row → Action α} {fn : Row → α} {w : World}

def RawCursor.Converts (q : RawCursor) (f : Row → Action α) (fn : Row → α) : Prop :=
  ∀ row w, q.Opened w → ∃ w', f row w = .ok (fn row) w' ∧ q.Opened w' ∧ q.record w' = q.record w

namespace Result

def pageFrom (t : Result) (k : Nat) (offset limit : Int) : List (List Value) :=
  let rows := t.rows.drop (t.pageStart k offset)
  if 0 < limit then rows.take limit.toNat else rows

-- Directly behind the page. A jump past the end moves nowhere.
def positionAfter (t : Result) (k : Nat) (offset limit : Int) : Nat :=
  if t.pageStart k offset ≤ t.rows.length then t.pageStart k offset + (t.pageFrom k offset limit).length
  else if t.scrolls then k
  else t.rows.length

def pagesFrom (t : Result) (k : Nat) : List (Int × Int) → List (List (List Value)) × Nat
  | [] => ([], k)
  | (offset, limit) :: rest =>
    let onward := t.pagesFrom (t.positionAfter k offset limit) rest
    (t.pageFrom k offset limit :: onward.1, onward.2)

theorem page_from_limited (t : Result) (k : Nat) (offset limit : Int) :
    t.pageFrom k offset limit = limited (RowCursor.limitOf limit) (t.rows.drop (t.pageStart k offset)) := by
  by_cases unlimited : limit ≤ 0
  · rw [pageFrom, if_neg (by omega), RowCursor.limitOf, if_pos unlimited]
    rfl
  · rw [pageFrom, if_pos (by omega), RowCursor.limitOf, if_neg unlimited]
    rfl

theorem pages_adjoin (t : Result) (calls : List (Int × Int)) (onward : ∀ call ∈ calls, call.1 ≤ 1 ∧ 0 < call.2) :
    (t.pagesFrom k calls).1.flatten = (t.rows.drop k).take (calls.map fun call => call.2.toNat).sum := by
  induction calls generalizing k with
  | nil => simp [pagesFrom]
  | cons call rest ih =>
      obtain ⟨offset, limit⟩ := call
      obtain ⟨top, positive⟩ : offset ≤ 1 ∧ 0 < limit := onward _ List.mem_cons_self
      have start : t.pageStart k offset = k := by
        rw [pageStart, if_pos top]
        split <;> omega
      have page : t.pageFrom k offset limit = (t.rows.drop k).take limit.toNat := by
        rw [pageFrom, start, if_pos positive]
      have after : t.rows.drop (t.positionAfter k offset limit) = (t.rows.drop k).drop limit.toNat := by
        unfold positionAfter
        rw [start, page, List.length_take, List.length_drop, List.drop_drop]
        by_cases inside : k ≤ t.rows.length
        · rw [if_pos inside]
          by_cases enough : limit.toNat ≤ t.rows.length - k
          · rw [Nat.min_eq_left enough]
          · rw [List.drop_eq_nil_of_le (by omega), List.drop_eq_nil_of_le (by omega)]
        · have beyond : t.rows.length ≤ k + limit.toNat := by omega
          rw [if_neg inside, List.drop_eq_nil_of_le beyond]
          exact List.drop_eq_nil_of_le (by split <;> omega)
      have later := ih (k := t.positionAfter k offset limit) fun call member => onward call (List.mem_cons_of_mem _ member)
      simp only [pagesFrom, List.flatten_cons, List.map_cons, List.sum_cons, page, later, after]
      exact (List.take_add).symm

end Result

namespace RowCursor

theorem visit_stands (converts : r.cursor.Converts f fn) {fuel : Nat} (limit : Option Nat) (stands : r.cursor.Stands t k w)
    (opened : r.cursor.Opened w) (enough : t.rows.length - k < fuel) :
    ∃ w', r.visit f fuel limit w = .ok ((r.shows (limited limit (t.rows.drop k))).map fn) w' ∧
      r.cursor.Stands t (k + (limited limit (t.rows.drop k)).length) w' ∧ r.cursor.Opened w' := by
  induction fuel generalizing limit k w with
  | zero => omega
  | succ fuel ih =>
      by_cases reached : limit = some 0
      · subst reached
        exact ⟨w, by rw [visit]; rfl, stands, opened⟩
      · obtain ⟨w₁, advanced, works, there, _⟩ := advance_stands stands
        have inside := stands.inside
        by_cases more : k < t.rows.length
        · rw [shows_at more] at advanced
          rw [Nat.min_eq_left more] at there
          obtain ⟨w₂, converted, opened', kept⟩ := converts ⟨t.rows[k], r.columns⟩ w₁ (works.opened opened)
          obtain ⟨w', ran, last, opened''⟩ := ih (limit.map (· - 1)) (stands_of_record there kept) opened' (by omega)
          refine ⟨w', ?_, ?_, opened''⟩
          · rw [limited_drop reached more]
            exact visit_row (o := .ok _) reached advanced converted ran
          · rw [limited_drop reached more, List.length_cons, Nat.add_comm _ 1, ← Nat.add_assoc]
            exact last
        · have nothing : t.rows.drop k = [] := List.drop_eq_nil_of_le (by omega)
          have same : min (k + 1) t.rows.length = k := by omega
          rw [shows_beyond (Nat.not_lt.mp more)] at advanced
          rw [same] at there
          rw [nothing, limited_nil, r.visit_succ f fuel reached]
          exact ⟨w₁, bind_of_ok advanced, there, works.opened opened⟩

theorem convert_stands (converts : r.cursor.Converts f fn) (offset limit : Int) (honest : t.Honest)
    (stands : r.cursor.Stands t k w) (opened : r.cursor.Opened w) :
    ∃ w', r.convert f offset limit w = .ok ((r.shows (t.pageFrom k offset limit)).map fn) w' ∧
      r.cursor.Stands t (t.positionAfter k offset limit) w' ∧ r.cursor.Opened w' := by
  rw [Result.positionAfter, t.page_from_limited, convert, walk]
  obtain ⟨_, w₁, works, _, _, ⟨inside, ran, there⟩ | ⟨beyond, ran, there⟩⟩ := move_to_stands offset honest stands
  · obtain ⟨n, patient, enough⟩ := patience_calm (r := r) w₁
    rw [rest_of_stands there, List.length_drop] at enough
    obtain ⟨w', visited, last, opened'⟩ := visit_stands converts (limitOf limit) there (works.opened opened) enough
    rw [if_pos inside]
    exact ⟨w', (bind_of_ok ran).trans ((bind_of_ok patient).trans visited), last, opened'⟩
  · have nothing : t.rows.drop (t.pageStart k offset) = [] := List.drop_eq_nil_of_le (by omega)
    rw [if_neg (by omega), nothing, limited_nil]
    exact ⟨w₁, bind_of_ok ran, there, works.opened opened⟩

theorem converts_stand (converts : r.cursor.Converts f fn) (honest : t.Honest) (calls : List (Int × Int))
    (stands : r.cursor.Stands t k w) (opened : r.cursor.Opened w) :
    ∃ w', (calls.mapM fun call => r.convert f call.1 call.2) w =
        .ok ((t.pagesFrom k calls).1.map fun page => (r.shows page).map fn) w' ∧
      r.cursor.Stands t (t.pagesFrom k calls).2 w' := by
  induction calls generalizing k w with
  | nil => exact ⟨w, rfl, stands⟩
  | cons call rest ih =>
      obtain ⟨w₁, ran, there, opened'⟩ := convert_stands converts call.1 call.2 honest stands opened
      obtain ⟨w', ran', last⟩ := ih there opened'
      refine ⟨w', ?_, last⟩
      rw [List.mapM_cons, bind_of_ok ran, bind_of_ok ran']
      rfl

theorem flatten_shows (r : RowCursor) (fn : Row → α) (pages : List (List (List Value))) :
    (pages.map fun page => (r.shows page).map fn).flatten = (r.shows pages.flatten).map fn := by
  rw [shows, List.map_flatten, List.map_flatten, List.map_map]
  rfl

end RowCursor

-- Each page follows from the position at which the one before it left the driver. From the top of what is left,
-- page by page, the client gets the rows from the first on, with none lost and none twice.
theorem repeated_paging (converts : r.cursor.Converts f fn) (opened : r.cursor.Opened w)
    (start : r.cursor.record w = t.opened) (willing : r.cursor.Willing w) (honest : t.Honest) (calls : List (Int × Int)) :
    ∃ pages w', (calls.mapM fun call => r.convert f call.1 call.2) w = .ok pages w' ∧
      pages = ((t.pagesFrom 0 calls).1.map fun page => (r.shows page).map fn) ∧
      r.cursor.position w' = (t.pagesFrom 0 calls).2 ∧
      ((∀ call ∈ calls, call.1 ≤ 1 ∧ 0 < call.2) →
        pages.flatten = (r.shows (t.rows.take (calls.map fun call => call.2.toNat).sum)).map fn) := by
  obtain ⟨w', ran, there⟩ := RowCursor.converts_stand converts honest calls (stands_opened start willing) opened
  refine ⟨_, w', ran, rfl, there.position, fun onward => ?_⟩
  rw [r.flatten_shows, t.pages_adjoin calls onward]
  rfl

-- The first row, the two behind it, and the row after the next, of which there is none.
theorem pages_of_three_rows :
    let t : Result :=
      { (default : Result) with
        description := .gives (some [.full (.text "a") .null])
        rows := [[.int 1], [.int 2], [.int 3]] }
    let opening : Action RowCursor := Statement.openBound (.direct ⟨0⟩) "SELECT a FROM t" (Binder.ofGiven .nothing) >>= Statement.query
    ∃ r w w', opening (World.start [{ (default : RawConnectionState) with results := [t] }] default 0) = .ok r w ∧
      ([(0, 1), (1, 2), (2, 0)].mapM fun call : Int × Int => r.convert (fun row => pure row.values) call.1 call.2) w =
        .ok [[[.int 1]], [[.int 2], [.int 3]], []] w' ∧ r.cursor.position w' = 3 := by
  intro t opening
  let w := opening.after (World.start [{ (default : RawConnectionState) with results := [t] }] default 0)
  let r : RowCursor := ⟨1, ⟨⟨0⟩, 0⟩, [⟨.text "a", .text "a", .null⟩]⟩
  have converts : r.cursor.Converts (fun row => pure row.values) Row.values := fun row w opened => ⟨w, rfl, opened, rfl⟩
  have opened : r.cursor.Opened w := Nat.zero_lt_one
  have start : r.cursor.record w = t.opened := rfl
  have willing : r.cursor.Willing w :=
    { fetches := fun _ absurd => by cases absurd
      scrolls := fun _ absurd => by cases absurd
      counts := ⟨some (-1), rfl⟩
      scroll := fun _ raises => by cases raises }
  have honest : t.Honest := fun n counted => by
    cases counted
    exact Or.inl (by decide)
  obtain ⟨_, w', ran, rfl, last, _⟩ :=
    repeated_paging converts opened start willing honest [(0, 1), (1, 2), (2, 0)]
  exact ⟨r, w, w', rfl, ran, last⟩

end SqlScope
