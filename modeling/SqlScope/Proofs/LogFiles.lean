import SqlScope.Logging.Folder

set_option autoImplicit false

namespace SqlScope.Logging.Folder

variable {t t' u : Folder} {p : Place}

-- Each file is still there, with all its lines and maybe more.
def Extends (t t' : Folder) : Prop :=
  ∀ p lines, t.files.lookup p = some lines → ∃ more, t'.files.lookup p = some (lines ++ more)

theorem extends_of_files (same : t'.files = t.files) : t.Extends t' := by
  intro p lines found
  exact ⟨[], by rw [same, found, List.append_nil]⟩

theorem extends_trans (first : t.Extends t') (second : t'.Extends u) : t.Extends u := by
  intro p lines found
  obtain ⟨more, found'⟩ := first p lines found
  obtain ⟨more', found''⟩ := second p _ found'
  exact ⟨more ++ more', by rw [found'', List.append_assoc]⟩

theorem add_folder_files (t : Folder) (p : Place) : (t.addFolder p).files = t.files := by
  unfold addFolder
  split <;> rfl

theorem ensure_last_files (t : Folder) (start : Place) (size : Nat) (before : List String) (name : String) :
    (t.ensureLast start size before name).1.files = t.files := by
  have made : ∀ made, t.makeLast start size before name = .ok made → made.files = t.files := by
    intro made run
    unfold makeLast at run
    split at run
    · cases run
    · rename_i p _
      split at run
      · cases run
      · cases run
        exact add_folder_files t p
  unfold ensureLast
  split
  · rename_i run
    exact made _ run
  · rfl

theorem make_back_files (t : Folder) (start : Place) (depth : Nat) (back : List Step) :
    (t.makeBack start depth back).1.files = t.files := by
  induction back generalizing t depth with
  | nil => rfl
  | cons s back ih =>
      cases back with
      | nil => exact ensure_last_files t start s.size [] s.name
      | cons last back =>
          unfold makeBack
          dsimp only
          split
          · exact ensure_last_files ..
          · split
            · rfl
            · have deeper := ih t (depth - 1)
              cases made : t.makeBack start (depth - 1) (last :: back) with
              | mk u trouble =>
                  rw [made] at deeper
                  have ended : (if s.name = "." then (u, none) else u.ensureLast start s.size
                      (last.name :: back.map (·.name)).reverse s.name).1.files = t.files := by
                    split
                    · exact deeper
                    · exact (ensure_last_files ..).trans deeper
                  cases trouble with
                  | none => exact ended
                  | some e =>
                      cases e with
                      | fileExists => exact ended
                      | _ => exact deeper

theorem make_files (t : Folder) (text : String) : (t.make text).1.files = t.files := by
  unfold make
  dsimp only
  split
  · rfl
  · exact make_back_files ..

theorem open_file_extends (opened : t.openFile p = .ok t') : t.Extends t' := by
  unfold openFile at opened
  split at opened
  · cases opened
  · split at opened
    · cases opened
    · split at opened
      · cases opened
        exact extends_of_files rfl
      · cases opened
        intro q lines found
        exact ⟨[], by rw [List.lookup_append, found, List.append_nil]; rfl⟩

theorem append_extends (t : Folder) (p : Place) (lines : List String) : t.Extends (t.append p lines) := by
  intro q old found
  have looked (files : List (Place × List String)) :
      (files.map fun f => if f.1 = p then (p, f.2 ++ lines) else f).lookup q =
        (files.lookup q).map (· ++ if q = p then lines else []) := by
    induction files with
    | nil => rfl
    | cons f files ih =>
        obtain ⟨here, kept⟩ := f
        by_cases asked : q = here
        · subst asked
          by_cases same : q = p
          · subst same
            simp
          · simp [same]
        · have other : (q == here) = false := beq_false_of_ne asked
          by_cases same : here = p
          · subst same
            simp only [List.map_cons, if_true, List.lookup_cons, other, ih]
          · simp only [List.map_cons, if_neg same, List.lookup_cons, other, ih]
  exact ⟨if q = p then lines else [], by rw [append, looked, found]; rfl⟩

end SqlScope.Logging.Folder
