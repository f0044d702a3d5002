import SqlScope.Row

set_option autoImplicit false

namespace SqlScope

namespace Column

def labels (c : Column) : Except Fault (List Label) := do
  let name ← Label.ofValue c.name
  let label ← Label.ofValue c.label
  pure [name, label]

def carries (c : Column) (l : Label) : Bool :=
  [c.name, c.label].any fun v =>
    match Label.ofValue v with
    | .ok own => own == l
    | .error _ => false

theorem carries_of_labels {c : Column} {own : List Label} (has : c.labels = .ok own) (l : Label) :
    c.carries l = own.any (· == l) := by
  rw [labels] at has
  cases named : Label.ofValue c.name with
  | error f => rw [named] at has; cases has
  | ok name =>
      cases labelled : Label.ofValue c.label with
      | error f => rw [named, labelled] at has; cases has
      | ok label =>
          rw [named, labelled] at has
          cases has
          simp [carries, named, labelled]

theorem of_entries_named {entries : List ColumnEntry} {columns : List Column} (read : ofEntries entries = .ok columns) :
    ∀ c ∈ columns, c.label = c.name := by
  induction entries generalizing columns with
  | nil =>
      cases read
      exact fun _ member => nomatch member
  | cons entry rest ih =>
      cases entry with
      | short => cases read
      | full name code =>
          simp only [ofEntries, ColumnEntry.column] at read
          cases later : ofEntries rest with
          | error f => rw [later] at read; cases read
          | ok more =>
              rw [later] at read
              cases read
              intro c member
              rcases List.mem_cons.mp member with rfl | member
              · rfl
              · exact ih later c member

end Column

theorem Label.of_value_value (l : Label) : Label.ofValue l.value = .ok l := by
  cases l <;> rfl

theorem last_found {α : Type} (xs : List α) (p : α → Bool) (a : α) :
    xs.reverse.find? p = some a ↔
      ∃ i : Nat, xs[i]? = some a ∧ p a = true ∧ ∀ (j : Nat) (b : α), i < j → xs[j]? = some b → p b = false := by
  rw [List.find?_eq_some_iff_append]
  constructor
  · rintro ⟨holds, later, earlier, split, none⟩
    have whole : xs = earlier.reverse ++ a :: later.reverse := by
      rw [← List.reverse_reverse xs, split, List.reverse_append, List.reverse_cons, List.append_assoc, List.singleton_append]
    refine ⟨earlier.reverse.length, by simp [whole], holds, fun j b beyond there => ?_⟩
    obtain ⟨k, rfl⟩ := Nat.exists_eq_add_of_lt beyond
    have past : earlier.reverse.length + k + 1 - earlier.reverse.length = k + 1 := by omega
    rw [whole, List.getElem?_append_right (by omega), past, List.getElem?_cons_succ] at there
    simpa using none b (List.mem_reverse.mp (List.mem_of_getElem? there))
  · rintro ⟨i, there, holds, none⟩
    obtain ⟨within, rfl⟩ := List.getElem?_eq_some_iff.mp there
    refine ⟨holds, (xs.drop (i + 1)).reverse, (xs.take i).reverse, ?_, fun b member => ?_⟩
    · rw [← List.singleton_append, ← List.append_assoc, ← List.reverse_cons, ← List.drop_eq_getElem_cons within,
        ← List.reverse_append, List.take_append_drop]
    · obtain ⟨k, found⟩ := List.mem_iff_getElem?.mp (List.mem_reverse.mp member)
      rw [List.getElem?_drop] at found
      simp [none (i + 1 + k) b (by omega) found]

namespace Row

def width (r : Row) : Nat := min r.columns.length r.values.length

def Last (r : Row) (l : Label) (v : Value) : Prop :=
  ∃ i c, i < r.width ∧ r.columns[i]? = some c ∧ r.values[i]? = some v ∧ c.carries l = true ∧
    ∀ j d, i < j → j < r.width → r.columns[j]? = some d → d.carries l = false

def written : List (Column × Value) → Except Fault (List (Label × Value))
  | [] => .ok []
  | (c, v) :: rest => do
    let own ← c.labels
    let more ← written rest
    pure (own.map (·, v) ++ more)

-- A label equal to the name writes the same value once more.
theorem enter_inserts (es : Entries Label Value) (name label : Label) (v : Value) :
    enter es name label v = (es.insert name v).insert label v := by
  unfold enter
  by_cases same : (label == name) = true
  · rw [if_pos same, Entries.insert_insert es (BEq.symm same)]
  · rw [if_neg same]

theorem enter_all_cons (es : Entries Label Value) (c : Column) (v : Value) (rest : List (Column × Value)) :
    enterAll es ((c, v) :: rest) =
      c.labels >>= fun own => enterAll ((own.map (·, v)).foldl (fun es p => es.insert p.1 p.2) es) rest := by
  rw [enterAll, Column.labels]
  cases Label.ofValue c.name with
  | error f => rfl
  | ok name =>
      cases Label.ofValue c.label with
      | error f => rfl
      | ok label => exact congrArg (enterAll · rest) (enter_inserts es name label v)

theorem enter_all_writes (pairs : List (Column × Value)) (es : Entries Label Value) :
    enterAll es pairs = (written pairs).map fun ws => ws.foldl (fun es p => es.insert p.1 p.2) es := by
  induction pairs generalizing es with
  | nil => rfl
  | cons p rest ih =>
      obtain ⟨c, v⟩ := p
      rw [enter_all_cons, written]
      cases c.labels with
      | error f => rfl
      | ok own =>
          refine (ih _).trans ?_
          cases written rest with
          | error f => rfl
          | ok more => exact congrArg Except.ok List.foldl_append.symm

theorem written_labels (pairs : List (Column × Value)) :
    (written pairs).map (·.map (·.1)) = ((pairs.map (·.1)).mapM Column.labels).map List.flatten := by
  induction pairs with
  | nil => rfl
  | cons p rest ih =>
      obtain ⟨c, v⟩ := p
      rw [written, List.map_cons, List.mapM_cons]
      cases c.labels with
      | error f => rfl
      | ok own =>
          have plain : (own.map (·, v)).map (·.1) = own := by simp [Function.comp_def]
          have onward := congrArg (Except.map (own ++ ·)) ih
          refine Eq.trans ?_ (onward.trans ?_)
          · cases written rest with
            | error f => rfl
            | ok more => exact congrArg Except.ok ((List.map_append ..).trans (congrArg (· ++ _) plain))
          · cases (rest.map (·.1)).mapM Column.labels <;> rfl

theorem last_own (own : List Label) (v : Value) (l : Label) :
    ((own.map (·, v)).reverse.find? fun p => p.1 == l).map (·.2) = if own.any (· == l) then some v else none := by
  induction own with
  | nil => rfl
  | cons k rest ih =>
      rw [List.map_cons, List.reverse_cons, List.find?_append, Option.map_or, ih, List.any_cons]
      cases rest.any (· == l) <;> cases named : k == l <;> simp [named]

theorem last_written {pairs : List (Column × Value)} {ws : List (Label × Value)} (wrote : written pairs = .ok ws) (l : Label) :
    (ws.reverse.find? fun p => p.1 == l).map (·.2) = (pairs.reverse.find? fun p => p.1.carries l).map (·.2) := by
  induction pairs generalizing ws with
  | nil =>
      cases wrote
      rfl
  | cons p rest ih =>
      obtain ⟨c, v⟩ := p
      rw [written] at wrote
      cases has : c.labels with
      | error f => rw [has] at wrote; cases wrote
      | ok own =>
          cases later : written rest with
          | error f => rw [has, later] at wrote; cases wrote
          | ok more =>
              rw [has, later] at wrote
              cases wrote
              rw [List.reverse_append, List.find?_append, Option.map_or, ih later, last_own, List.reverse_cons,
                List.find?_append, Option.map_or, ← Column.carries_of_labels has]
              cases carried : c.carries l <;> simp [carried]

theorem last_of_zip (r : Row) (l : Label) (v : Value) :
    ((r.columns.zip r.values).reverse.find? fun p => p.1.carries l).map (·.2) = some v ↔ r.Last l v := by
  rw [Option.map_eq_some_iff]
  unfold Last width
  constructor
  · rintro ⟨⟨c, u⟩, found, rfl⟩
    obtain ⟨i, there, carried, none⟩ := (last_found _ _ _).mp found
    obtain ⟨column, value⟩ := List.getElem?_zip_eq_some.mp there
    have within := (List.getElem?_eq_some_iff.mp there).1
    refine ⟨i, c, by simpa using within, column, value, carried, fun j d later inside named => ?_⟩
    have filled : j < r.values.length := by omega
    exact none j (d, r.values[j]) later
      (List.getElem?_zip_eq_some.mpr ⟨named, List.getElem?_eq_getElem filled⟩)
  · rintro ⟨i, c, within, column, value, carried, none⟩
    refine ⟨(c, v), (last_found _ _ _).mpr ⟨i, List.getElem?_zip_eq_some.mpr ⟨column, value⟩, carried, ?_⟩, rfl⟩
    rintro j ⟨d, u⟩ later there
    have inside := (List.getElem?_eq_some_iff.mp there).1
    exact none j d later (by simpa using inside) (List.getElem?_zip_eq_some.mp there).1

theorem columns_of_zip (r : Row) : r.columns.take r.width = (r.columns.zip r.values).map (·.1) := by
  rw [List.zip_eq_zip_take_min, List.map_fst_zip (by simp), width]

theorem enter_all_distinct {columns : List Column} {names : List Label} (same : ∀ c ∈ columns, c.label = c.name)
    (named : columns.map (·.name) = names.map Label.value) (distinct : names.Pairwise fun a b => (a == b) = false)
    (values : List Value) (es : Entries Label Value) (free : ∀ l ∈ names, es.get? l = none) :
    enterAll es (columns.zip values) = .ok (es ++ names.zip values) := by
  induction columns generalizing names values es with
  | nil =>
      have none : names = [] := by simpa using named.symm
      simp [none, enterAll]
  | cons c rest ih =>
      cases names with
      | nil => cases named
      | cons name others =>
          have first : c.name = name.value := (List.cons.inj named).1
          have later := (List.cons.inj named).2
          cases values with
          | nil => simp [enterAll]
          | cons v more =>
              have alike : (name == name) = true := BEq.rfl
              have apart := List.pairwise_cons.mp distinct
              have placed := Entries.insert_of_free es (free name List.mem_cons_self) v
              have left : ∀ l ∈ others, (es ++ [(name, v)] : Entries Label Value).get? l = none := fun l member => by
                rw [← placed, Entries.get?_insert, apart.1 l member]
                exact free l (List.mem_cons_of_mem name member)
              have tail := ih (fun d member => same d (List.mem_cons_of_mem c member)) later apart.2 more _ left
              rw [List.zip_cons_cons, enterAll, same c List.mem_cons_self, first, Label.of_value_value]
              simp only [enter, alike, if_true, placed, tail, List.zip_cons_cons, List.append_assoc, List.singleton_append]

end Row

-- Only as many columns count as there are values. Their names and labels are the keys, in the order of their first
-- appearance, and each key has the value of the last column that carries it; a name or label that cannot be a key is
-- the failure. Columns as a driver describes them, with names that differ, are the row in its order.
theorem row_map_exact (r : Row) :
    (match (r.columns.take r.width).mapM Column.labels with
      | .error f => r.toMap = .error f
      | .ok names => ∃ es, r.toMap = .ok es ∧ es.keys = names.flatten.eraseDups ∧
          ∀ l v, es.get? l = some v ↔ r.Last l v) ∧
    ∀ description (names : List Label), Column.ofDescription description = .ok r.columns →
      r.columns.map (·.name) = names.map Label.value → names.Pairwise (fun a b => (a == b) = false) →
      r.columns.length = r.values.length →
      ∃ es, r.toMap = .ok es ∧ es.keys = names ∧ es.map (·.2) = r.toList := by
  refine ⟨?_, fun description names described named distinct full => ?_⟩
  · have labels := Row.written_labels (r.columns.zip r.values)
    have made : r.toMap = (Row.written (r.columns.zip r.values)).map Entries.ofPairs :=
      Row.enter_all_writes (r.columns.zip r.values) []
    rw [r.columns_of_zip]
    cases wrote : Row.written (r.columns.zip r.values) with
    | error f =>
        rw [wrote] at labels made
        cases read : ((r.columns.zip r.values).map (·.1)).mapM Column.labels with
        | ok names => rw [read] at labels; cases labels
        | error g =>
            rw [read] at labels
            cases labels
            exact made
    | ok ws =>
        rw [wrote] at labels made
        cases read : ((r.columns.zip r.values).map (·.1)).mapM Column.labels with
        | error g => rw [read] at labels; cases labels
        | ok names =>
            rw [read] at labels
            have same : ws.map (·.1) = names.flatten := Except.ok.inj labels
            refine ⟨Entries.ofPairs ws, made, ?_, fun l v => ?_⟩
            · rw [Entries.keys_ofPairs, same]
            · rw [Entries.get?_ofPairs, Row.last_written wrote, r.last_of_zip]
  · have same := Column.of_entries_named described
    have length : names.length = r.values.length := by
      have counted := congrArg List.length named
      simpa [full] using counted.symm
    refine ⟨names.zip r.values, ?_, ?_, ?_⟩
    · exact Row.enter_all_distinct same named distinct r.values [] fun _ _ => rfl
    · exact List.map_fst_zip (Nat.le_of_eq length)
    · exact List.map_snd_zip (Nat.le_of_eq length.symm)

-- The label of one column is the name of the other, and a third column has no value.
theorem row_map_of_crossing_columns :
    let crossing : Row :=
      ⟨[.int 1, .int 2], [⟨.text "b", .text "a", .null⟩, ⟨.text "a", .text "b", .null⟩, ⟨.text "c", .text "c", .null⟩]⟩
    let described : Row :=
      ⟨[.int 1, .text "Hello"], [⟨.text "ID", .text "ID", .int 23⟩, ⟨.text "NAME", .text "NAME", .int 25⟩]⟩
    (∃ es, crossing.toMap = .ok es ∧ es.keys = [.text "a", .text "b"] ∧ es.get? (.text "a") = some (.int 2)) ∧
    ∃ es, described.toMap = .ok es ∧ es.keys = [.text "ID", .text "NAME"] ∧ es.map (·.2) = [.int 1, .text "Hello"] := by
  intro crossing described
  obtain ⟨es, made, keys, last⟩ := (row_map_exact crossing).1
  refine ⟨⟨es, made, keys, (last _ _).mpr ⟨1, _, by decide, rfl, rfl, rfl, fun j d later inside => ?_⟩⟩, ?_⟩
  · have only : j < 2 := inside
    omega
  · exact (row_map_exact described).2 (some [.full (.text "ID") (.int 23), .full (.text "NAME") (.int 25)]) _ rfl rfl
      (by decide) rfl

end SqlScope
