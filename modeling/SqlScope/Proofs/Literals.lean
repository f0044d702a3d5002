import Mathlib
import SqlScope.Settings

set_option autoImplicit false

namespace SqlScope

namespace Text

variable {quote a : Char} {rest rest' : List Char}

def hexValue (c : Char) : Nat := if c.toNat < 0x3a then c.toNat - 0x30 else c.toNat - 0x57

def unhex (cs : List Char) : Nat := cs.foldl (fun n c => n * 16 + hexValue c) 0

theorem hex_value_digit : ∀ d < 16, hexValue (hexDigit d) = d := by decide

theorem hex_length (width n : Nat) : (hex width n).length = width := by
  induction width generalizing n with
  | zero => rfl
  | succ width ih => rw [hex, List.length_append, ih, List.length_singleton]

theorem unhex_hex (width n : Nat) : unhex (hex width n) = n % 16 ^ width := by
  induction width generalizing n with
  | zero => rw [Nat.pow_zero, Nat.mod_one]; rfl
  | succ width ih =>
      have last : unhex (hex width (n / 16) ++ [hexDigit (n % 16)]) =
          unhex (hex width (n / 16)) * 16 + hexValue (hexDigit (n % 16)) := List.foldl_concat ..
      rw [hex, last, ih, hex_value_digit _ (Nat.mod_lt n (by decide)), Nat.pow_succ', Nat.mod_mul]
      omega

def codeWidth (m : Char) : Option Nat :=
  if m = 'x' then some 2 else if m = 'u' then some 4 else if m = 'U' then some 8 else none

def unmark : List Char → Option (Char × List Char)
  | [] => none
  | m :: rest =>
    if m = 'n' then some ('\n', rest)
    else if m = 'r' then some ('\r', rest)
    else if m = 't' then some ('\t', rest)
    else match codeWidth m with
      | some width => some (Char.ofNat (unhex (rest.take width)), rest.drop width)
      | none => some (m, rest)

def unescape : List Char → Option (Char × List Char)
  | [] => none
  | c :: rest => if c = '\\' then unmark rest else some (c, rest)

theorem unescape_code {m : Char} {width : Nat} (marks : codeWidth m = some width) (letter : m ≠ 'n' ∧ m ≠ 'r' ∧ m ≠ 't')
    (fits : a.toNat < 16 ^ width) : unescape ('\\' :: m :: (hex width a.toNat ++ rest)) = some (a, rest) := by
  have length := hex_length width a.toNat
  simp only [unescape, unmark, if_true, if_neg letter.1, if_neg letter.2.1, if_neg letter.2.2, marks]
  rw [List.take_left' length, List.drop_left' length, unhex_hex, Nat.mod_eq_of_lt fits, Char.ofNat_toNat]

theorem quote_for_cases (cs : List Char) : quoteFor cs = '\'' ∨ quoteFor cs = '"' := by
  rw [quoteFor]
  split
  · exact Or.inr rfl
  · exact Or.inl rfl

theorem unescape_escape (quotes : quote = '\'' ∨ quote = '"') (a : Char) (rest : List Char) :
    unescape (escape quote a ++ rest) = some (a, rest) := by
  unfold escape
  by_cases special : a = quote ∨ a = '\\'
  · rw [if_pos special]
    rcases special with rfl | rfl
    · rcases quotes with rfl | rfl <;> rfl
    · rfl
  rw [if_neg special]
  by_cases line : a = '\n'
  · rw [if_pos line, line]; rfl
  rw [if_neg line]
  by_cases back : a = '\r'
  · rw [if_pos back, back]; rfl
  rw [if_neg back]
  by_cases tab : a = '\t'
  · rw [if_pos tab, tab]; rfl
  rw [if_neg tab]
  by_cases printable : isPrintable a
  · rw [if_pos printable]
    exact if_neg (not_or.mp special).2
  rw [if_neg printable]
  by_cases short : a.toNat < 0x100
  · rw [if_pos short]
    exact unescape_code rfl (by decide) short
  rw [if_neg short]
  by_cases middle : a.toNat < 0x10000
  · rw [if_pos middle]
    exact unescape_code rfl (by decide) middle
  rw [if_neg middle]
  refine unescape_code rfl (by decide) (lt_trans ?_ (show 0x110000 < 16 ^ 8 by decide))
  rcases a.valid with low | ⟨_, high⟩
  · exact lt_trans low (by decide)
  · exact high

theorem escape_head (quotes : quote = '\'' ∨ quote = '"') (a : Char) : (escape quote a ++ rest).head? ≠ some quote := by
  intro begins
  have mark : quote ≠ '\\' := by rcases quotes with rfl | rfl <;> decide
  obtain ⟨more, begins⟩ := List.head?_eq_some_iff.mp begins
  have read := unescape_escape quotes a rest
  -- Only the quote is read back as the quote, and the quote is written with a backslash.
  rw [begins, unescape, if_neg mark] at read
  obtain ⟨rfl, _⟩ := Prod.mk.inj (Option.some.inj read)
  rw [escape, if_pos (Or.inl rfl)] at begins
  exact mark (List.cons.inj begins).1.symm

theorem escapes_cut (quotes : quote = '\'' ∨ quote = '"') {cs ds : List Char}
    (same : cs.flatMap (escape quote) ++ quote :: rest = ds.flatMap (escape quote) ++ quote :: rest') :
    cs = ds ∧ rest = rest' := by
  induction cs generalizing ds with
  | nil =>
      cases ds with
      | nil => exact ⟨rfl, (List.cons.inj same).2⟩
      | cons b ds =>
          rw [List.flatMap_cons, List.append_assoc] at same
          exact (escape_head quotes b (congrArg List.head? same).symm).elim
  | cons a cs ih =>
      rw [List.flatMap_cons, List.append_assoc] at same
      cases ds with
      | nil => exact (escape_head quotes a (congrArg List.head? same)).elim
      | cons b ds =>
          rw [List.flatMap_cons, List.append_assoc] at same
          have read := congrArg unescape same
          rw [unescape_escape quotes, unescape_escape quotes] at read
          obtain ⟨rfl, behind⟩ := Prod.mk.inj (Option.some.inj read)
          obtain ⟨rfl, after⟩ := ih behind
          exact ⟨rfl, after⟩

theorem quoted_cut {s t : String} (same : (quoted s).toList ++ rest = (quoted t).toList ++ rest') :
    s = t ∧ rest = rest' := by
  simp only [quoted, String.toList_ofList, List.cons_append, List.append_assoc] at same
  obtain ⟨quote, same⟩ := List.cons.inj same
  rw [← quote] at same
  obtain ⟨equal, behind⟩ := escapes_cut (quote_for_cases s.toList) same
  exact ⟨String.toList_inj.mp equal, behind⟩

end Text

variable {α κ : Type} {rest rest' : List Char}

def isStop (a : Char) : Bool := [',', ':', ']', '\x7d'].contains a

def Stops (rest : List Char) : Prop := ∀ a, rest.head? = some a → isStop a = true

-- The text of `x` is the text of nothing else, and tells where it ends.
def Cuts (f : α → List Char) (x : α) : Prop :=
  ∀ y rest rest', Stops rest → Stops rest' → f x ++ rest = f y ++ rest' → x = y ∧ rest = rest'

def BeginsItem (cs : List Char) : Prop := ∃ a more, cs = a :: more ∧ isStop a = false

theorem stops_cons {a : Char} (stop : isStop a = true) (rest : List Char) : Stops (a :: rest) := by
  intro b first
  cases first
  exact stop

theorem span_cut {cs ds : List Char} (inside : ∀ a ∈ cs, isStop a = false) (inside' : ∀ a ∈ ds, isStop a = false)
    (stops : Stops rest) (stops' : Stops rest') (same : cs ++ rest = ds ++ rest') : cs = ds ∧ rest = rest' := by
  induction cs generalizing ds with
  | nil =>
      cases ds with
      | nil => exact ⟨rfl, same⟩
      | cons b ds =>
          rw [List.nil_append] at same
          have stop := stops b (by rw [same]; rfl)
          rw [inside' b List.mem_cons_self] at stop
          cases stop
  | cons a cs ih =>
      cases ds with
      | nil =>
          rw [List.nil_append] at same
          have stop := stops' a (by rw [← same]; rfl)
          rw [inside a List.mem_cons_self] at stop
          cases stop
      | cons b ds =>
          obtain ⟨rfl, behind⟩ := List.cons.inj same
          obtain ⟨rfl, after⟩ := ih (fun a later => inside a (List.mem_cons_of_mem _ later))
            (fun a later => inside' a (List.mem_cons_of_mem _ later)) behind
          exact ⟨rfl, after⟩

section

variable {f : α → List Char} {close : Char}

def separated (f : α → List Char) (xs : List α) : List Char := [',', ' '].intercalate (xs.map f)

def following (f : α → List Char) (xs : List α) : List Char := xs.flatMap fun x => ',' :: ' ' :: f x

theorem separated_cons (f : α → List Char) (x : α) (xs : List α) : separated f (x :: xs) = f x ++ following f xs := by
  induction xs generalizing x with
  | nil => simp [separated, following, List.intercalate]
  | cons y ys ih =>
      rw [separated, List.map_cons, List.map_cons, List.intercalate_cons_cons, ← List.map_cons, ← separated, ih,
        List.append_assoc]
      rfl

theorem following_stops (stop : isStop close = true) (f : α → List Char) (xs : List α) (rest : List Char) :
    Stops (following f xs ++ close :: rest) := by
  cases xs with
  | nil => exact stops_cons stop rest
  | cons x xs => exact stops_cons (by decide) _

theorem item_cut (stop : isStop close = true) {x y : α} {xs ys : List α} (cuts : Cuts f x)
    (same : f x ++ following f xs ++ close :: rest = f y ++ following f ys ++ close :: rest') :
    x = y ∧ following f xs ++ close :: rest = following f ys ++ close :: rest' := by
  rw [List.append_assoc, List.append_assoc] at same
  exact cuts y _ _ (following_stops stop f xs rest) (following_stops stop f ys rest') same

theorem following_cut (stop : isStop close = true) (apart : close ≠ ',') {xs ys : List α} (each : ∀ x ∈ xs, Cuts f x)
    (same : following f xs ++ close :: rest = following f ys ++ close :: rest') : xs = ys ∧ rest = rest' := by
  induction xs generalizing ys with
  | nil =>
      cases ys with
      | nil => exact ⟨rfl, (List.cons.inj same).2⟩
      | cons y ys => exact (apart (List.cons.inj same).1).elim
  | cons x xs ih =>
      cases ys with
      | nil => exact (apart (List.cons.inj same).1.symm).elim
      | cons y ys =>
          obtain ⟨rfl, others⟩ := item_cut stop (each x List.mem_cons_self) (List.cons.inj (List.cons.inj same).2).2
          obtain ⟨rfl, after⟩ := ih (fun x later => each x (List.mem_cons_of_mem _ later)) others
          exact ⟨rfl, after⟩

-- An item is never taken for the closing character, so both lists are empty or neither is.
theorem separated_cut (starts : ∀ x, BeginsItem (f x)) (stop : isStop close = true) (apart : close ≠ ',') {xs ys : List α}
    (each : ∀ x ∈ xs, Cuts f x) (same : separated f xs ++ close :: rest = separated f ys ++ close :: rest') :
    xs = ys ∧ rest = rest' := by
  have no_close (x : α) (more behind : List Char) : f x ++ more ≠ close :: behind := by
    obtain ⟨a, others, spelled, inside⟩ := starts x
    rw [spelled]
    intro equal
    rw [(List.cons.inj equal).1, stop] at inside
    cases inside
  cases xs with
  | nil =>
      cases ys with
      | nil => exact ⟨rfl, (List.cons.inj same).2⟩
      | cons y ys =>
          rw [separated_cons, List.append_assoc] at same
          exact (no_close y _ _ same.symm).elim
  | cons x xs =>
      cases ys with
      | nil =>
          rw [separated_cons, List.append_assoc] at same
          exact (no_close x _ _ same).elim
      | cons y ys =>
          rw [separated_cons, separated_cons] at same
          obtain ⟨rfl, others⟩ := item_cut stop (each x List.mem_cons_self) same
          obtain ⟨rfl, after⟩ := following_cut stop apart (fun x later => each x (List.mem_cons_of_mem _ later)) others
          exact ⟨rfl, after⟩

end

namespace Value

-- Induction in which a list and a table have the hypothesis for each value that they hold.
theorem induct {P : Value → Prop} (null : P .null) (bool : ∀ b, P (.bool b)) (int : ∀ n, P (.int n))
    (text : ∀ s, P (.text s)) (list : ∀ items, (∀ v ∈ items, P v) → P (.list items))
    (table : ∀ es, (∀ p ∈ es, P p.2) → P (.table es)) : ∀ v, P v
  | .null => null
  | .bool b => bool b
  | .int n => int n
  | .text s => text s
  | .list items => list items fun v _ => induct null bool int text list table v
  | .table es => table es fun p _ => induct null bool int text list table p.2
termination_by v => sizeOf v
decreasing_by
  · rename_i member
    have less := List.sizeOf_lt_of_mem member
    rw [Value.list.sizeOf_spec]
    omega
  · rename_i member
    have less := List.sizeOf_lt_of_mem member
    obtain ⟨k, v⟩ := p
    rw [Prod.mk.sizeOf_spec] at less
    rw [Value.table.sizeOf_spec]
    dsimp only
    omega

def spelled (v : Value) : List Char := v.literal.toList

def entrySpelled (key : κ → Value) (p : κ × Value) : List Char := (key p.1).spelled ++ ':' :: ' ' :: p.2.spelled

theorem entry_spelled (key : κ → Value) (p : κ × Value) :
    ((key p.1).literal ++ ": " ++ p.2.literal).toList = entrySpelled key p := by
  rw [String.toList_append, String.toList_append, List.append_assoc]
  rfl

def typeOfFirst (a : Char) : String :=
  if a = 'N' then "NoneType"
  else if a = 'T' ∨ a = 'F' then "bool"
  else if a = '\'' ∨ a = '"' then "str"
  else if a = '[' then "list"
  else if a = '\x7b' then "dict"
  else "int"

theorem spelled_list (items : List Value) : (Value.list items).spelled = '[' :: (separated spelled items ++ [']']) := by
  have each (vs : List Value) : literals vs = vs.map literal := by
    induction vs with
    | nil => rfl
    | cons v vs ih => rw [literals, ih, List.map_cons]
  simp only [spelled, literal, String.toList_append, String.toList_intercalate, each, List.map_map]
  rfl

theorem spelled_table (es : List (String × Value)) :
    (Value.table es).spelled = '\x7b' :: (separated (entrySpelled .text) es ++ ['\x7d']) := by
  have each (es : List (String × Value)) :
      (entryLiterals es).map String.toList = es.map (entrySpelled .text) := by
    induction es with
    | nil => rfl
    | cons p es ih => exact congrArg₂ List.cons (entry_spelled .text p) ih
  simp only [spelled, literal, String.toList_append, String.toList_intercalate, each]
  rfl

theorem int_characters (n : Int) : n.repr.toList ≠ [] ∧ ∀ a ∈ n.repr.toList, a = '-' ∨ a.isDigit = true := by
  have digits (m : Nat) : ∀ a ∈ m.repr.toList, a.isDigit = true := fun a member =>
    Nat.isDigit_of_mem_toDigits (by decide) (by decide) (Nat.toList_repr ▸ member)
  cases n with
  | ofNat m => exact ⟨Nat.toList_repr (n := m) ▸ Nat.toDigits_ne_nil, fun a member => Or.inr (digits m a member)⟩
  | negSucc m =>
      rw [Int.repr, String.toList_append]
      refine ⟨List.cons_ne_nil _ _, fun a member => ?_⟩
      rcases List.mem_append.mp member with sign | digit
      · exact Or.inl (List.mem_singleton.mp sign)
      · exact Or.inr (digits _ a digit)

theorem digit_begins {a : Char} (part : a = '-' ∨ a.isDigit = true) : isStop a = false ∧ typeOfFirst a = "int" := by
  have other (c : Char) (no_part : ¬ (c = '-' ∨ c.isDigit = true)) : a ≠ c := fun same => no_part (same ▸ part)
  constructor
  · simp [isStop, other ',' (by decide), other ':' (by decide), other ']' (by decide), other '\x7d' (by decide)]
  · simp [typeOfFirst, other 'N' (by decide), other 'T' (by decide), other 'F' (by decide), other '\'' (by decide),
      other '"' (by decide), other '[' (by decide), other '\x7b' (by decide)]

theorem literal_begins (v : Value) :
    ∃ a more, v.spelled = a :: more ∧ isStop a = false ∧ typeOfFirst a = v.typeName := by
  cases v with
  | null => exact ⟨'N', _, rfl, by decide, rfl⟩
  | bool b =>
      cases b with
      | true => exact ⟨'T', _, rfl, by decide, rfl⟩
      | false => exact ⟨'F', _, rfl, by decide, rfl⟩
  | int n =>
      obtain ⟨some, parts⟩ := int_characters n
      obtain ⟨a, more, spelled⟩ := List.exists_cons_of_ne_nil some
      exact ⟨a, more, spelled, digit_begins (parts a (by rw [spelled]; exact List.mem_cons_self))⟩
  | text s =>
      refine ⟨Text.quoteFor s.toList, _, String.toList_ofList, ?_⟩
      rcases Text.quote_for_cases s.toList with quote | quote <;> rw [quote] <;> exact ⟨by decide, rfl⟩
  | list items => exact ⟨'[', _, spelled_list items, by decide, rfl⟩
  | table es => exact ⟨'\x7b', _, spelled_table es, by decide, rfl⟩

theorem literal_starts (v : Value) : BeginsItem v.spelled := by
  obtain ⟨a, more, spelled, inside, _⟩ := literal_begins v
  exact ⟨a, more, spelled, inside⟩

theorem entry_starts (key : κ → Value) (p : κ × Value) : BeginsItem (entrySpelled key p) := by
  obtain ⟨a, more, spelled, inside⟩ := literal_starts (key p.1)
  rw [entrySpelled, spelled]
  exact ⟨a, _, rfl, inside⟩

theorem entries_cut {key : κ → Value} (injective : ∀ i j, key i = key j → i = j) {es es' : List (κ × Value)}
    (keys : ∀ p ∈ es, Cuts spelled (key p.1)) (values : ∀ p ∈ es, Cuts spelled p.2)
    (same : separated (entrySpelled key) es ++ '\x7d' :: rest = separated (entrySpelled key) es' ++ '\x7d' :: rest') :
    es = es' ∧ rest = rest' := by
  refine separated_cut (entry_starts key) (by decide) (by decide) (fun p member => ?_) same
  rintro ⟨k, v⟩ rest rest' stops stops' same
  simp only [entrySpelled, List.append_assoc, List.cons_append] at same
  obtain ⟨named, behind⟩ := keys p member _ _ _ (stops_cons (by decide) _) (stops_cons (by decide) _) same
  obtain ⟨valued, after⟩ := values p member _ _ _ stops stops' (List.cons.inj (List.cons.inj behind).2).2
  exact ⟨Prod.ext (injective _ _ named) valued, after⟩

theorem same_type {v v' : Value} (same : v.spelled ++ rest = v'.spelled ++ rest') : v.typeName = v'.typeName := by
  obtain ⟨a, more, spelled, _, type⟩ := literal_begins v
  obtain ⟨a', more', spelled', _, type'⟩ := literal_begins v'
  rw [spelled, spelled'] at same
  rw [← type, ← type', (List.cons.inj same).1]

theorem null_cuts : Cuts spelled null := by
  intro v rest rest' _ _ same
  cases v with
  | null => exact ⟨rfl, List.append_cancel_left same⟩
  | _ => exact absurd (same_type same) (by simp [typeName])

theorem bool_cuts (b : Bool) : Cuts spelled (bool b) := by
  intro v rest rest' _ _ same
  cases v with
  | bool b' =>
      cases b <;> cases b'
      · exact ⟨rfl, List.append_cancel_left same⟩
      · exact absurd (List.cons.inj same).1 (by decide)
      · exact absurd (List.cons.inj same).1 (by decide)
      · exact ⟨rfl, List.append_cancel_left same⟩
  | _ => exact absurd (same_type same) (by simp [typeName])

theorem int_cuts (n : Int) : Cuts spelled (int n) := by
  intro v rest rest' stops stops' same
  cases v with
  | int m =>
      have inside (i : Int) : ∀ a ∈ i.repr.toList, isStop a = false := fun a member =>
        (digit_begins ((int_characters i).2 a member)).1
      obtain ⟨spelled, after⟩ := span_cut (inside n) (inside m) stops stops' same
      exact ⟨congrArg int (Int.repr_inj.mp (String.toList_inj.mp spelled)), after⟩
  | _ => exact absurd (same_type same) (by simp [typeName])

theorem text_cuts (s : String) : Cuts spelled (text s) := by
  intro v rest rest' _ _ same
  cases v with
  | text t =>
      obtain ⟨rfl, after⟩ := Text.quoted_cut same
      exact ⟨rfl, after⟩
  | _ => exact absurd (same_type same) (by simp [typeName])

theorem list_cuts {items : List Value} (each : ∀ v ∈ items, Cuts spelled v) : Cuts spelled (list items) := by
  intro v rest rest' _ _ same
  cases v with
  | list items' =>
      simp only [spelled_list, List.cons_append, List.append_assoc] at same
      obtain ⟨rfl, after⟩ := separated_cut literal_starts (by decide) (by decide) each (List.cons.inj same).2
      exact ⟨rfl, after⟩
  | _ => exact absurd (same_type same) (by simp [typeName])

theorem table_cuts {es : List (String × Value)} (each : ∀ p ∈ es, Cuts spelled p.2) : Cuts spelled (table es) := by
  intro v rest rest' _ _ same
  cases v with
  | table es' =>
      simp only [spelled_table, List.cons_append, List.append_assoc] at same
      obtain ⟨rfl, after⟩ := entries_cut (fun _ _ => Value.text.inj) (fun p _ => text_cuts p.1) each (List.cons.inj same).2
      exact ⟨rfl, after⟩
  | _ => exact absurd (same_type same) (by simp [typeName])

theorem literal_cuts (v : Value) : Cuts spelled v := by
  induction v using induct with
  | null => exact null_cuts
  | bool b => exact bool_cuts b
  | int n => exact int_cuts n
  | text s => exact text_cuts s
  | list items each => exact list_cuts each
  | table es each => exact table_cuts each

end Value

theorem Settings.literal_injective {s t : Settings} (same : s.literal = t.literal) : s = t := by
  have each (s : Settings) : s.literal.toList = '\x7b' :: (separated (Value.entrySpelled Label.value) s ++ ['\x7d']) := by
    simp only [Settings.literal, String.toList_append, String.toList_intercalate, List.map_map]
    simp only [Function.comp_def, Value.entry_spelled]
    rfl
  have spelled := congrArg String.toList same
  rw [each, each] at spelled
  have apart (i j : Label) (same : i.value = j.value) : i = j := by
    cases i <;> cases j <;> cases same <;> rfl
  exact (Value.entries_cut apart (fun p _ => Value.literal_cuts _) (fun p _ => Value.literal_cuts _)
    (List.cons.inj spelled).2).1

end SqlScope
