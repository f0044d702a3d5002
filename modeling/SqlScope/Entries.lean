/-!
Keyed entries in the order in which their keys were first given. Giving an equal key again keeps the
first key and its place, and replaces its value.
-/
set_option autoImplicit false

namespace SqlScope

abbrev Entries (κ ν : Type) := List (κ × ν)

namespace Entries

variable {κ ν : Type} [BEq κ]

def get? : Entries κ ν → κ → Option ν
  | [], _ => none
  | (j, v) :: rest, k => if j == k then some v else get? rest k

def insert : Entries κ ν → κ → ν → Entries κ ν
  | [], k, v => [(k, v)]
  | (j, u) :: rest, k, v => if j == k then (j, v) :: rest else (j, u) :: insert rest k v

def keys (es : Entries κ ν) : List κ := es.map (·.1)

def ofPairs (pairs : List (κ × ν)) : Entries κ ν :=
  pairs.foldl (fun es p => es.insert p.1 p.2) []

theorem get?_insert [EquivBEq κ] (es : Entries κ ν) (k j : κ) (v : ν) :
    (es.insert k v).get? j = if k == j then some v else es.get? j := by
  induction es with
  | nil => rfl
  | cons p rest ih =>
    obtain ⟨i, u⟩ := p
    cases h : i == k with
    | true =>
      have same : (i == j) = (k == j) := BEq.congr_left h
      cases hk : k == j <;> simp [insert, get?, h, same, hk]
    | false =>
      have apart : (i == j) = true → (k == j) = false := fun hi => by
        cases hk : k == j with
        | false => rfl
        | true => rw [BEq.trans hi (BEq.symm hk)] at h; cases h
      cases hi : i == j <;> simp_all [insert, get?]

theorem keys_insert (es : Entries κ ν) (k : κ) (v : ν) :
    (es.insert k v).keys = if (es.get? k).isSome then es.keys else es.keys ++ [k] := by
  induction es with
  | nil => rfl
  | cons p rest ih =>
    obtain ⟨i, u⟩ := p
    cases h : i == k with
    | true => simp [insert, get?, keys, h]
    | false =>
      simp only [keys] at ih
      simp only [insert, get?, keys, h, Bool.false_eq_true, if_false, List.map_cons, ih]
      split <;> rfl

theorem get?_congr [EquivBEq κ] (es : Entries κ ν) {k j : κ} (same : (k == j) = true) : es.get? k = es.get? j := by
  induction es with
  | nil => rfl
  | cons p rest ih =>
    have alike : (p.1 == k) = (p.1 == j) := BEq.congr_right same
    simp only [get?, alike, ih]

theorem insert_insert [EquivBEq κ] (es : Entries κ ν) {k j : κ} (same : (k == j) = true) (u v : ν) :
    (es.insert k u).insert j v = es.insert k v := by
  induction es with
  | nil => simp [insert, same]
  | cons p rest ih =>
    have alike : (p.1 == j) = (p.1 == k) := (BEq.congr_right same).symm
    cases h : p.1 == k <;> simp [insert, h, alike, ih]

theorem insert_of_free (es : Entries κ ν) {k : κ} (free : es.get? k = none) (v : ν) :
    es.insert k v = es ++ [(k, v)] := by
  induction es with
  | nil => rfl
  | cons p rest ih => cases h : p.1 == k <;> simp_all [insert, get?]

theorem get?_foldl_insert [EquivBEq κ] (pairs : List (κ × ν)) (es : Entries κ ν) (k : κ) :
    (pairs.foldl (fun es p => es.insert p.1 p.2) es).get? k =
      ((pairs.reverse.find? fun p => p.1 == k).map (·.2)).or (es.get? k) := by
  induction pairs generalizing es with
  | nil => rfl
  | cons p rest ih =>
    rw [List.foldl_cons, ih, get?_insert, List.reverse_cons, List.find?_append, Option.map_or]
    cases named : p.1 == k <;> simp [named]

theorem keys_foldl_insert [EquivBEq κ] (pairs : List (κ × ν)) (es : Entries κ ν) :
    (pairs.foldl (fun es p => es.insert p.1 p.2) es).keys =
      es.keys ++ ((pairs.map (·.1)).filter fun k => (es.get? k).isNone).eraseDups := by
  induction pairs generalizing es with
  | nil => simp [keys]
  | cons p rest ih =>
    obtain ⟨k, v⟩ := p
    have left : ∀ j, ((es.insert k v).get? j).isNone = (!j == k && (es.get? j).isNone) := fun j => by
      rw [get?_insert, BEq.comm]
      cases h : j == k <;> simp
    rw [List.foldl_cons, ih, keys_insert]
    cases there : es.get? k with
    | some u =>
      have kept : ∀ j, (!j == k && (es.get? j).isNone) = (es.get? j).isNone := fun j => by
        cases same : j == k with
        | false => rfl
        | true => simp [get?_congr es same, there]
      simp [there, left, kept]
    | none => simp [there, left, List.filter_filter, List.eraseDups_cons]

theorem get?_ofPairs [EquivBEq κ] (pairs : List (κ × ν)) (k : κ) :
    (ofPairs pairs).get? k = (pairs.reverse.find? fun p => p.1 == k).map (·.2) := by
  rw [ofPairs, get?_foldl_insert]
  exact Option.or_none

theorem keys_ofPairs [EquivBEq κ] (pairs : List (κ × ν)) : (ofPairs pairs).keys = (pairs.map (·.1)).eraseDups := by
  have free : ∀ k ∈ pairs.map (·.1), (get? ([] : Entries κ ν) k).isNone = true := fun _ _ => rfl
  rw [ofPairs, keys_foldl_insert, List.filter_eq_self.mpr free]
  rfl

end Entries

end SqlScope
