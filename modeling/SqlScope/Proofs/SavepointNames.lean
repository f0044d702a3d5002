import SqlScope.Proofs.TransactionProtocol

set_option autoImplicit false

namespace SqlScope

open SqlScope.Action

variable {α : Type} {c : Connection} {w w' : World}

namespace Savepoint

structure Word (n : String) : Prop where
  inhabited : n.toList ≠ []
  parts : ∀ a ∈ n.toList, a.isAlpha = true ∨ a.isDigit = true ∨ a = '_'
  start : ∀ a, n.toList.head? = some a → a.isDigit = false

inductive Takes : Value → Option String → Prop where
  | nothing : Takes .null none
  | refused : Takes (.bool false) none
  | zero : Takes (.int 0) none
  | anonymous {n : String} (word : Word n) : Takes (.bool true) (some n)
  | named {n : String} (word : Word n) : Takes (.text n) (some n)
  | lined {n : String} (word : Word n) : Takes (.text (n ++ "\n")) (some (n ++ "\n"))

theorem alpha_not_digit {a : Char} (letter : a.isAlpha = true) : a.isDigit = false := by
  rw [Bool.eq_false_iff]
  intro digit
  have most : a.toNat ≤ 57 := (Char.isDigit_iff_toNat.mp digit).2
  rcases Bool.or_eq_true_iff.mp letter with upper | lower
  · have least : 65 ≤ a.toNat := UInt32.le_iff_toNat_le.mp (of_decide_eq_true upper).1
    omega
  · have least : 97 ≤ a.toNat := UInt32.le_iff_toNat_le.mp (of_decide_eq_true (Bool.and_eq_true_iff.mp lower).1)
    omega

theorem is_start_iff (a : Char) : isStart a = true ↔ a.isAlpha = true ∨ a = '_' := by
  rw [isStart, Bool.or_eq_true, beq_iff_eq]

theorem is_part_iff (a : Char) : isPart a = true ↔ a.isAlpha = true ∨ a.isDigit = true ∨ a = '_' := by
  rw [isPart, show a.isAlphanum = (a.isAlpha || a.isDigit) from rfl, Bool.or_eq_true, Bool.or_eq_true, beq_iff_eq, or_assoc]

theorem is_word_iff (n : String) : isWord n.toList = true ↔ Word n := by
  constructor
  · intro spelled
    cases listed : n.toList with
    | nil =>
        rw [listed] at spelled
        cases spelled
    | cons a rest =>
        rw [listed, isWord, Bool.and_eq_true, is_start_iff, List.all_eq_true] at spelled
        obtain ⟨start, parts⟩ := spelled
        refine ⟨by rw [listed]; exact List.cons_ne_nil a rest, fun b member => ?_, fun b first => ?_⟩
        · rw [listed] at member
          rcases List.mem_cons.mp member with rfl | later
          · exact start.imp_right Or.inr
          · exact (is_part_iff b).mp (parts b later)
        · rw [listed] at first
          cases first
          rcases start with letter | rfl
          · exact alpha_not_digit letter
          · decide
  · intro word
    cases listed : n.toList with
    | nil => exact (word.inhabited listed).elim
    | cons a rest =>
        have parts := word.parts
        rw [listed] at parts
        rw [isWord, Bool.and_eq_true, is_start_iff, List.all_eq_true]
        refine ⟨?_, fun b later => (is_part_iff b).mpr (parts b (List.mem_cons_of_mem a later))⟩
        rcases parts a List.mem_cons_self with letter | digit | under
        · exact Or.inl letter
        · rw [word.start a (by rw [listed]; rfl)] at digit
          cases digit
        · exact Or.inr under

theorem chomp_line (cs : List Char) : chomp (cs ++ ['\n']) = cs := by
  induction cs with
  | nil => rfl
  | cons a rest ih =>
      cases rest with
      | nil => rw [List.cons_append, chomp, ih]; simp
      | cons b more => rw [List.cons_append, chomp, ih]; simp

theorem chomp_cases (cs : List Char) : chomp cs = cs ∨ ∃ rest, cs = rest ++ ['\n'] := by
  induction cs using chomp.induct with
  | case1 => exact Or.inl rfl
  | case2 => exact Or.inr ⟨[], rfl⟩
  | case3 a rest other ih =>
      rcases ih with same | ⟨before, rfl⟩
      · left
        rw [chomp, same]
        exact other
      · exact Or.inr ⟨a :: before, rfl⟩

theorem word_chomped {n : String} (word : Word n) : chomp n.toList = n.toList := by
  rcases chomp_cases n.toList with same | ⟨rest, lined⟩
  · exact same
  · have member : '\n' ∈ n.toList := by
      rw [lined]
      exact List.mem_append_right rest List.mem_cons_self
    have no_part : ¬ ('\n'.isAlpha = true ∨ '\n'.isDigit = true ∨ '\n' = '_') := by decide
    exact (no_part (word.parts '\n' member)).elim

-- The accepted names: words, and words with one line feed behind them.
theorem is_name_iff (s : String) : isName s = true ↔ Word s ∨ ∃ n, Word n ∧ s = n ++ "\n" := by
  constructor
  · intro spelled
    rcases chomp_cases s.toList with same | ⟨rest, lined⟩
    · left
      rw [isName, same] at spelled
      exact (is_word_iff s).mp spelled
    · right
      refine ⟨String.ofList rest, ?_, ?_⟩
      · rw [isName, lined, chomp_line] at spelled
        rw [← is_word_iff, String.toList_ofList]
        exact spelled
      · rw [← String.toList_inj, lined, String.toList_append, String.toList_ofList]
        rfl
  · rintro (word | ⟨n, word, rfl⟩)
    · rw [isName, word_chomped word]
      exact (is_word_iff s).mpr word
    · have lined : (n ++ "\n").toList = n.toList ++ ['\n'] := String.toList_append
      rw [isName, lined, chomp_line]
      exact (is_word_iff n).mpr word

theorem hex_parts (width n : Nat) : ∀ a ∈ Text.hex width n, a.isAlpha = true ∨ a.isDigit = true ∨ a = '_' := by
  induction width generalizing n with
  | zero => intro a absurd; cases absurd
  | succ width ih =>
      intro a member
      rcases List.mem_append.mp member with early | last
      · exact ih (n / 16) a early
      · have digits : ∀ d < 16, isPart (Text.hexDigit d) = true := by decide
        rw [List.mem_singleton.mp last]
        exact (is_part_iff _).mp (digits (n % 16) (Nat.mod_lt n (by decide)))

theorem anonymous_word (n : Nat) : Word (anonymous n) := by
  have listed : (anonymous n).toList = 's' :: 'p' :: '_' ::
      Text.hex 12 ((n * 0x9e3779b97f4b + 0x5deece66d1a7) % 0x1000000000000) := String.toList_ofList
  refine ⟨by rw [listed]; exact List.cons_ne_nil _ _, fun a member => ?_, fun a first => ?_⟩
  · rw [listed] at member
    simp only [List.mem_cons] at member
    rcases member with rfl | rfl | rfl | digit
    · decide
    · decide
    · decide
    · exact hex_parts 12 _ a digit
  · rw [listed] at first
    cases first
    decide

theorem takes_text {s : String} {name : Option String} (takes : Takes (.text s) name) : name = some s := by
  generalize asked : Value.text s = v at takes
  cases takes <;> simp_all

theorem request_takes (savepoint : Value) (w : World) :
    (∃ name w', request savepoint w = .ok name w' ∧ Takes savepoint name) ∨
      (∀ name, ¬ Takes savepoint name) ∧
        request savepoint w = .error (Kind.value.failure ("Invalid savepoint name: " ++ savepoint.literal)) w := by
  cases savepoint with
  | null => exact Or.inl ⟨none, w, rfl, .nothing⟩
  | bool b =>
      cases b with
      | false => exact Or.inl ⟨none, w, rfl, .refused⟩
      | true => exact Or.inl ⟨_, _, rfl, .anonymous (anonymous_word w.savepoints)⟩
  | int n =>
      by_cases zero : n = 0
      · subst zero
        exact Or.inl ⟨none, w, rfl, .zero⟩
      · refine Or.inr ⟨fun name takes => ?_, ?_⟩
        · cases takes
          exact zero rfl
        · rw [request]
          · rfl
          all_goals simp_all
  | text s =>
      have asked : request (.text s) w = (if isName s then pure (some s) else request.refuse (.text s)) w := rfl
      rw [asked]
      by_cases name : isName s = true
      · left
        rw [if_pos name]
        rcases (is_name_iff s).mp name with word | ⟨n, word, rfl⟩
        · exact ⟨some s, w, rfl, .named word⟩
        · exact ⟨some (n ++ "\n"), w, rfl, .lined word⟩
      · right
        rw [if_neg name]
        refine ⟨fun given takes => name ((is_name_iff s).mpr ?_), rfl⟩
        cases takes with
        | named word => exact Or.inl word
        | @lined n word => exact Or.inr ⟨n, word, rfl⟩
  | list items => exact Or.inr ⟨fun _ takes => (nomatch takes), rfl⟩
  | table entries => exact Or.inr ⟨fun _ takes => (nomatch takes), rfl⟩

end Savepoint

def Call.Passes (verb : String) (name : Option String) : Call → Prop
  | .execute _ sql _ => ∃ n, name = some n ∧ sql = verb ++ n
  | _ => True

theorem begin_passes (c : Connection) (name : Option String) :
    (acting (Call.Passes "SAVEPOINT " name)).Kept (Transaction.begin c name) := by
  refine acting_mono (fun call begins => ?_) (begin_begins c name)
  cases call with
  | execute q sql given => exact begins.2
  | _ => trivial

theorem run_sql_passes (c : Connection) (verb n : String) :
    (acting (Call.Passes verb (some n))).Kept (Transaction.runSql c (verb ++ n)) := by
  refine acting_mono (fun call work => ?_) (Transaction.run_sql_acts c (verb ++ n))
  cases call with
  | execute q sql given => exact ⟨n, rfl, work.2⟩
  | _ => trivial

theorem concludes_passes (c : Connection) (name : Option String) (r : Except Failure α) :
    (acting (Call.Passes "ROLLBACK TO SAVEPOINT " name)).Kept (c.concludes name r) := by
  have commits : (acting (Call.Passes "ROLLBACK TO SAVEPOINT " name)).Kept (c.trial r) :=
    acting_mono (fun call isCommit => by rw [isCommit]; trivial) (trial_acts c r)
  have undoes : (acting (Call.Passes "ROLLBACK TO SAVEPOINT " name)).Kept (Transaction.rollBack c name) := by
    cases name with
    | none => exact kept_bind (c.rollback_acts trivial) fun _ => debug_acts _ _
    | some n => exact kept_bind (run_sql_passes c _ n) fun _ => debug_acts _ _
  refine kept_bind (kept_on_ordinary commits fun f => ?_) fun v => kept_bind (debug_acts _ _) fun _ => kept_pure v
  exact kept_bind (kept_on_ordinary undoes fun _ => warn_acts _ _) fun _ => kept_throw _

theorem begins_passes {savepoint : Value} {name : Option String} {w₁ : World}
    (asked : Savepoint.request savepoint w = .ok name w₁) :
    Grew (Call.Passes "SAVEPOINT " name) w ((c.begins savepoint).after w) := by
  have quiet := (Savepoint.request_acts (P := Call.Passes "SAVEPOINT " name) savepoint w trivial).2.grew
  have begun : (acting (Call.Passes "SAVEPOINT " name)).Kept (onOrdinary (Transaction.begin c name)
      (fun f => throw (f.wrap .transaction "Cannot begin transaction")) >>= fun _ => pure name) :=
    kept_bind (kept_on_ordinary (begin_passes c name) fun _ => kept_throw _) fun _ => kept_pure name
  rw [after_of_ok asked] at quiet
  rw [Connection.begins, after_bind_of_ok asked]
  exact grew_trans quiet (begun w₁ trivial).2.grew

-- A savepoint that is refused is refused before anything is done. One that is granted has its name in all texts that
-- are executed before the operation is entered and after it has ended: a word, or a word and a line feed.
theorem savepoint_texts_hold_names (c : Connection) (savepoint : Value) (w : World) :
    ((∀ name, ¬ Savepoint.Takes savepoint name) ∧ ∀ {α : Type} (op : Connection → Action α),
      c.transact op savepoint w =
        .error (Kind.value.failure ("Invalid savepoint name: " ++ savepoint.literal)) w) ∨
    ∃ name w₁, Savepoint.Takes savepoint name ∧ Grew (Call.Passes "SAVEPOINT " name) w w₁ ∧
      ((∃ e, ∀ {α : Type} (op : Connection → Action α), c.transact op savepoint w = .error e w₁) ∨
        ∀ {α : Type} (op : Connection → Action α),
          c.transact op savepoint w = (outcome (op c) >>= c.concludes name) w₁ ∧
            Grew (Call.Passes "ROLLBACK TO SAVEPOINT " name) ((op c).after w₁) ((c.transact op savepoint).after w)) := by
  rcases Savepoint.request_takes savepoint w with ⟨name, w₀, asked, takes⟩ | ⟨untaken, refused⟩
  · right
    have grew := begins_passes (c := c) asked
    cases begun : c.begins savepoint w with
    | error e w₁ =>
        rw [after_of_error begun] at grew
        exact ⟨name, w₁, takes, grew, Or.inl ⟨e, fun op => transact_of_refused begun op⟩⟩
    | ok name' w₁ =>
        obtain ⟨name'', w₂, asked', rest⟩ := ok_of_bind begun
        cases asked.symm.trans asked'
        obtain ⟨_, w₃, _, same⟩ := ok_of_bind rest
        cases same
        rw [after_of_ok begun] at grew
        refine ⟨name, w₁, takes, grew, Or.inr fun op => ⟨transact_of_begun begun op, ?_⟩⟩
        obtain ⟨r, ended⟩ := after_outcome_bind (op c) w₁
        rw [Action.after.eq_def (c.transact op savepoint), transact_of_begun begun op, ended]
        exact (concludes_passes c name r _ trivial).2.grew
  · left
    exact ⟨untaken, fun op => bind_of_error refused⟩

-- A word with a line feed behind it is no word, and yet it stands in the text that the driver gets.
theorem line_feed_in_savepoint_text :
    let w := World.start [default] default 0
    let c := Connection.direct ⟨0⟩
    let op : Connection → Action Unit := fun _ => pure ()
    ¬ Savepoint.Word "x\n" ∧ ∃ w₁ w', c.transact op (.text "x\n") w = .ok () w' ∧
      Event.call (.execute ⟨⟨0⟩, 0⟩ "SAVEPOINT x\n" none) none ∈ w'.history ∧
      Grew (Call.Passes "SAVEPOINT " (some "x\n")) w w₁ ∧
      Grew (Call.Passes "ROLLBACK TO SAVEPOINT " (some "x\n")) w₁ w' := by
  intro w c op
  have word : Savepoint.Word "x" := (Savepoint.is_word_iff "x").mp (by decide)
  have ran : ∃ w', c.transact op (.text "x\n") w = .ok () w' ∧
      w'.history = [.log .commands .debug "Committed transaction", .call (.commit ⟨0⟩) none,
        .call (.closeCursor ⟨⟨0⟩, 0⟩) none, .call (.execute ⟨⟨0⟩, 0⟩ "SAVEPOINT x\n" none) none,
        .call (.openCursor ⟨0⟩) none] := ⟨_, rfl, rfl⟩
  obtain ⟨w', ran, shown⟩ := ran
  refine ⟨fun lined => ?_, ?_⟩
  · have no_part : ¬ ('\n'.isAlpha = true ∨ '\n'.isDigit = true ∨ '\n' = '_') := by decide
    exact no_part (lined.parts '\n' (by decide))
  rcases savepoint_texts_hold_names c (.text "x\n") w with ⟨untaken, _⟩ | ⟨name, w₁, takes, begins, ⟨e, failed⟩ | runs⟩
  · exact (untaken (some "x\n") (.lined word)).elim
  · cases ran.symm.trans (failed op)
  · have ended := (runs op).2
    rw [Savepoint.takes_text takes, after_of_ok ran] at ended
    rw [Savepoint.takes_text takes] at begins
    exact ⟨w₁, w', ran, by simp [shown], begins, ended⟩

end SqlScope
