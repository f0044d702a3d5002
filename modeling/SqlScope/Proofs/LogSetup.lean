import SqlScope.Logging.Loggers
import SqlScope.Proofs.LogFiles

set_option autoImplicit false

namespace SqlScope.Logging

namespace Loggers

open Folder

variable {l l' : Loggers} {setting? : Option String} {choice directory : Value} {level : Level} {name : String}
  {names : List String} {files : List (String × LogHandler)}

structure Attaches (level : Level) (names : List String) (files : List (String × LogHandler)) (l l' : Loggers) : Prop where
  rootLevel : l'.rootLevel = l.rootLevel
  known : l'.known = l.known
  console : l'.console = l.console
  folder : l.folder.Extends l'.folder
  handlers : l'.handlers = l.handlers ++ files
  loggers : files.map Prod.fst <+: names
  sinks : ∀ p ∈ files, ∃ place, p.2 = ⟨.file place, level⟩

theorem attaches_none (level : Level) (names : List String) {folder : Folder} (grown : l.folder.Extends folder) :
    Attaches level names [] l { l with folder } where
  rootLevel := rfl
  known := rfl
  console := rfl
  folder := grown
  handlers := (List.append_nil _).symm
  loggers := List.nil_prefix
  sinks _ absurd := (List.not_mem_nil absurd).elim

theorem attach_files_attaches (l : Loggers) (directory : Place) (level : Level) (names : List String) :
    ∃ files, Attaches level names files l (l.attachFiles directory level names).1 ∧
      ((l.attachFiles directory level names).2 = none → files.map Prod.fst = names) := by
  induction names generalizing l with
  | nil => exact ⟨[], attaches_none level [] (extends_of_files rfl), fun _ => rfl⟩
  | cons name rest ih =>
      cases opened : l.folder.openFile (directory ++ [fileName name]) with
      | error e =>
          rw [attachFiles, opened]
          exact ⟨[], attaches_none level _ (extends_of_files rfl), fun absurd => by cases absurd⟩
      | ok folder =>
          rw [attachFiles, opened]
          obtain ⟨files, attaches, all⟩ :=
            ih ({ l with folder := folder }.attach name ⟨.file (directory ++ [fileName name]), level⟩)
          refine ⟨(name, ⟨.file (directory ++ [fileName name]), level⟩) :: files, { attaches with
            folder := extends_trans (open_file_extends opened) attaches.folder
            handlers := attaches.handlers.trans (List.append_assoc ..)
            loggers := List.prefix_cons_iff.mpr (Or.inr ⟨_, rfl, attaches.loggers⟩)
            sinks := ?_ }, fun untroubled => congrArg (name :: ·) (all untroubled)⟩
          intro p member
          rcases List.mem_cons.mp member with rfl | later
          · exact ⟨_, rfl⟩
          · exact attaches.sinks p later

theorem open_files_attaches (l : Loggers) (level : Level) (directory : String) :
    ∃ files, Attaches level fileLoggers files l (l.openFiles level directory).1 ∧
      ((l.openFiles level directory).2 = none → files.map Prod.fst = fileLoggers) := by
  have grown : l.folder.Extends (l.folder.make directory).1 := extends_of_files (make_files l.folder directory)
  unfold openFiles
  cases made : l.folder.make directory with
  | mk folder trouble =>
      rw [made] at grown
      have troubled (e : FolderProblem) : ∃ files, Attaches level fileLoggers files l { l with folder } ∧
          (some (Problem.folder e) = none → files.map Prod.fst = fileLoggers) :=
        ⟨[], attaches_none level _ grown, fun absurd => by cases absurd⟩
      cases trouble with
      | some e => exact troubled e
      | none =>
          dsimp only
          cases found : folder.walk (Route.ofString directory).start (Route.ofString directory).names with
          | error e => exact troubled e
          | ok place =>
              obtain ⟨files, attaches, all⟩ := attach_files_attaches { l with folder } place level fileLoggers
              exact ⟨files, { attaches with folder := extends_trans grown attaches.folder }, all⟩

-- What becomes of the loggers in a setup, and its problem. It does nothing, because there was one before it or
-- its level does not exist; or it sets the level, and the handlers of the console and, unless there was a
-- problem, of all the files.
structure Installs (l : Loggers) (asked : Except LevelProblem Level) (l' : Loggers) (trouble : Option Problem) : Prop where
  again : l.handlersOf rootName ≠ [] → l' = l ∧ trouble = none
  refused : l.handlersOf rootName = [] → ∀ e, asked = .error e → l' = l ∧ trouble = some (.level e)
  made : l.handlersOf rootName = [] → ∀ level, asked = .ok level → ∃ files,
    Attaches level fileLoggers files ({ l with rootLevel := level }.attach rootName ⟨.console, level⟩) l' ∧
      (trouble = none → files.map Prod.fst = fileLoggers)

theorem install_installs (l : Loggers) (setting? : Option String) (choice directory : Value) :
    Installs l (Level.ofValue setting? choice) (l.install setting? choice directory).1
      (l.install setting? choice directory).2 := by
  unfold install
  refine ⟨fun standing => ?_, fun bare e refused => ?_, fun bare level asked => ?_⟩
  · rw [if_pos (by simpa using standing)]
    exact ⟨rfl, rfl⟩
  · rw [bare, if_neg (fun absurd => by cases absurd), refused]
    exact ⟨rfl, rfl⟩
  · rw [bare, if_neg (fun absurd => by cases absurd), asked]
    cases directory with
    | text s => exact open_files_attaches ({ l with rootLevel := level }.attach rootName ⟨.console, level⟩) level s
    | _ => exact ⟨[], attaches_none level _ (extends_of_files rfl), fun absurd => by cases absurd⟩

theorem know_same (l : Loggers) (logger : String) : ∃ known, l.know logger = { l with known } := by
  unfold know
  split
  · exact ⟨l.known, rfl⟩
  · exact ⟨_, rfl⟩

theorem deliver_same (lines : List String) (level : Level) (hs : List LogHandler) (l : Loggers) :
    ∃ console folder, l.folder.Extends folder ∧ hs.foldl (deliver lines level) l = { l with console, folder } := by
  induction hs generalizing l with
  | nil => exact ⟨l.console, l.folder, extends_of_files rfl, rfl⟩
  | cons h hs ih =>
      have first : ∃ console folder, l.folder.Extends folder ∧ deliver lines level l h = { l with console, folder } := by
        unfold deliver
        split
        · exact ⟨_, _, extends_of_files rfl, rfl⟩
        · cases h.sink with
          | file place => exact ⟨_, _, append_extends l.folder place lines, rfl⟩
          | _ => exact ⟨_, _, extends_of_files rfl, rfl⟩
      obtain ⟨console, folder, grown, first⟩ := first
      rw [List.foldl_cons, first]
      obtain ⟨console', folder', grown', rest⟩ := ih { l with console, folder }
      exact ⟨console', folder', extends_trans grown grown', rest⟩

theorem emit_same (l : Loggers) (logger : String) (level : Level) (message : String) :
    ∃ console folder, l.folder.Extends folder ∧
      l.emit logger level message = { l.know logger with console, folder } := by
  obtain ⟨known, knows⟩ := know_same l logger
  unfold emit
  dsimp only
  rw [knows]
  split
  · exact ⟨_, _, extends_of_files rfl, rfl⟩
  · split
    · split <;> exact ⟨_, _, extends_of_files rfl, rfl⟩
    · exact deliver_same _ level _ { l with known }

inductive Use where
  | install (setting? : Option String) (choice directory : Value)
  | emit (logger : String) (level : Level) (message : String)

def Use.isRecord : Use → Bool
  | install .. => false
  | emit .. => true

def Use.apply (l : Loggers) : Use → Loggers
  | install setting? choice directory => (l.install setting? choice directory).1
  | emit logger level message => l.emit logger level message

def run (l : Loggers) (uses : List Use) : Loggers := uses.foldl Use.apply l

theorem apply_same (standing : l.handlersOf rootName ≠ []) (use : Use) :
    (use.apply l).handlers = l.handlers ∧ (use.apply l).rootLevel = l.rootLevel := by
  cases use with
  | install setting? choice directory =>
      rw [Use.apply, ((install_installs l setting? choice directory).again standing).1]
      exact ⟨rfl, rfl⟩
  | emit logger level message =>
      obtain ⟨known, knows⟩ := know_same l logger
      obtain ⟨console, folder, _, emitted⟩ := emit_same l logger level message
      rw [Use.apply, emitted, knows]
      exact ⟨rfl, rfl⟩

theorem run_standing (standing : l.handlersOf rootName ≠ []) (uses : List Use) :
    run l uses = run l (uses.filter Use.isRecord) ∧ (run l uses).handlers = l.handlers ∧
      (run l uses).rootLevel = l.rootLevel := by
  induction uses generalizing l with
  | nil => exact ⟨rfl, rfl, rfl⟩
  | cons use uses ih =>
      obtain ⟨handlers, rootLevel⟩ := apply_same standing use
      have later : (use.apply l).handlersOf rootName ≠ [] := by
        rw [handlersOf, handlers]
        exact standing
      obtain ⟨records, handlers', rootLevel'⟩ := ih later
      refine ⟨?_, handlers'.trans handlers, rootLevel'.trans rootLevel⟩
      cases use with
      | install setting? choice directory =>
          have same : (Use.install setting? choice directory).apply l = l :=
            ((install_installs l setting? choice directory).again standing).1
          rw [same] at records
          exact (congrArg (run · uses) same).trans records
      | emit logger level message => exact records

theorem standing_of_attaches {names : List String} {h : LogHandler}
    (attaches : Attaches level names files (l.attach rootName h) l') : l'.handlersOf rootName ≠ [] := by
  rw [handlersOf, attaches.handlers]
  simp [attach]

-- Of all setups, the first one that finds its level counts: what comes later is as if the others had not been
-- made, whatever they ask for, and the handlers and the level stay. A setup before it changes nothing.
theorem first_setup_counts (l : Loggers) (setting? : Option String) (choice directory : Value) (uses : List Use) :
    let l' := (l.install setting? choice directory).1
    (l.handlersOf rootName = [] ∧ (∃ e, Level.ofValue setting? choice = .error e) ∧ l' = l) ∨
      run l' uses = run l' (uses.filter Use.isRecord) ∧ (run l' uses).handlers = l'.handlers ∧
        (run l' uses).rootLevel = l'.rootLevel := by
  intro l'
  have installs := install_installs l setting? choice directory
  by_cases bare : l.handlersOf rootName = []
  · cases asked : Level.ofValue setting? choice with
    | error e => exact Or.inl ⟨bare, ⟨e, rfl⟩, (installs.refused bare e asked).1⟩
    | ok level =>
        obtain ⟨files, attaches, _⟩ := installs.made bare level asked
        exact Or.inr (run_standing (standing_of_attaches attaches) uses)
  · have standing : l'.handlersOf rootName ≠ [] := by
      rw [show l' = l from (installs.again bare).1]
      exact bare
    exact Or.inr (run_standing standing uses)

theorem apply_grows (l : Loggers) (use : Use) : l.folder.Extends (use.apply l).folder := by
  cases use with
  | emit logger level message =>
      obtain ⟨console, folder, grown, emitted⟩ := emit_same l logger level message
      rw [Use.apply, emitted]
      exact grown
  | install setting? choice directory =>
      have installs := install_installs l setting? choice directory
      have same : (l.install setting? choice directory).1 = l →
          l.folder.Extends (l.install setting? choice directory).1.folder := fun same => by
        rw [same]
        exact extends_of_files rfl
      by_cases bare : l.handlersOf rootName = []
      · cases asked : Level.ofValue setting? choice with
        | error e => exact same (installs.refused bare e asked).1
        | ok level =>
            obtain ⟨files, attaches, _⟩ := installs.made bare level asked
            exact attaches.folder
      · exact same (installs.again bare).1

-- No setup and no record takes a line from a file.
theorem run_grows (l : Loggers) (uses : List Use) : l.folder.Extends (run l uses).folder := by
  induction uses generalizing l with
  | nil => exact extends_of_files rfl
  | cons use uses ih => exact extends_trans (apply_grows l use) (ih (use.apply l))

structure Ready (level : Level) (l : Loggers) : Prop where
  rootLevel : l.rootLevel = level
  root : l.handlersOf rootName = [⟨.console, level⟩]
  files : ∀ p ∈ l.handlers, p.1 ≠ rootName → ∃ place, p.2.sink = .file place
  unknown : rootName ∉ l.known

theorem ready_of_same (ready : Ready level l) (handlers : l'.handlers = l.handlers) (rootLevel : l'.rootLevel = l.rootLevel)
    (unknown : rootName ∉ l'.known) : Ready level l' where
  rootLevel := rootLevel.trans ready.rootLevel
  root := by
    rw [handlersOf, handlers]
    exact ready.root
  files := handlers ▸ ready.files
  unknown := unknown

theorem know_unknown (unknown : rootName ∉ l.known) (logger : String) : rootName ∉ (l.know logger).known := by
  unfold know
  split
  · exact unknown
  · rename_i other
    rintro member
    rcases List.mem_append.mp member with old | new
    · exact unknown old
    · rw [List.mem_singleton] at new
      subst new
      exact other rfl

theorem mem_known_above {known : List String} {back : List Char} (member : name ∈ knownAbove known back) :
    name ∈ known := by
  fun_induction knownAbove known back with
  | case1 => cases member
  | case2 c back above isKnown ih =>
      rcases List.mem_cons.mp member with rfl | later
      · exact List.contains_iff_mem.mp isKnown
      · exact ih later
  | case3 c back above isOther ih => exact ih member
  | case4 c back other ih => exact ih member

theorem handlers_on_chain (ready : Ready level l) (logger : String) :
    ∃ hs, (∀ h ∈ hs, ∃ place, h.sink = .file place) ∧
      (l.chain logger).flatMap l.handlersOf = hs ++ [⟨.console, level⟩] := by
  unfold chain
  by_cases root : isRoot logger
  · refine ⟨[], fun _ absurd => (List.not_mem_nil absurd).elim, ?_⟩
    rw [if_pos root, List.flatMap_singleton, ready.root]
    rfl
  · refine ⟨(logger :: knownAbove l.known logger.toList.reverse).flatMap l.handlersOf, fun h member => ?_, ?_⟩
    · obtain ⟨name, above, member⟩ := List.mem_flatMap.mp member
      have other : name ≠ rootName := by
        rintro rfl
        rcases List.mem_cons.mp above with rfl | above
        · exact root rfl
        · exact ready.unknown (mem_known_above above)
      obtain ⟨p, attached, rfl⟩ := List.mem_map.mp member
      obtain ⟨attached, named⟩ := List.mem_filter.mp attached
      exact ready.files p attached (of_decide_eq_true named ▸ other)
    · rw [if_neg root, List.flatMap_append, List.flatMap_singleton, ready.root]

theorem deliver_files {hs : List LogHandler} (toFiles : ∀ h ∈ hs, ∃ place, h.sink = .file place) (lines : List String)
    (level : Level) (l : Loggers) : (hs.foldl (deliver lines level) l).console = l.console := by
  induction hs generalizing l with
  | nil => rfl
  | cons h hs ih =>
      obtain ⟨place, sink⟩ := toFiles h List.mem_cons_self
      rw [List.foldl_cons, ih fun h member => toFiles h (List.mem_cons_of_mem _ member), deliver, sink]
      split <;> rfl

def Use.shown (level : Level) : Use → List String
  | install .. => []
  | emit logger given message =>
    if given.rank ≤ 0 ∨ given.rank < level.rank then [] else linesOf (line logger given message)

theorem emit_shown (ready : Ready level l) (logger : String) (given : Level) (message : String) :
    (l.emit logger given message).console = l.console ++ (Use.emit logger given message).shown level := by
  obtain ⟨known, knows⟩ := know_same l logger
  have unknown := know_unknown ready.unknown logger
  rw [knows] at unknown
  have ready' : Ready level { l with known } := ready_of_same ready rfl rfl unknown
  obtain ⟨hs, toFiles, handlers⟩ := handlers_on_chain ready' logger
  unfold emit Use.shown
  dsimp only
  rw [knows, handlers, ready'.rootLevel]
  by_cases low : given.rank ≤ 0 ∨ given.rank < level.rank
  · rw [if_pos low, if_pos low, List.append_nil]
  · obtain ⟨h, rest, whole⟩ : ∃ h rest, hs ++ [⟨.console, level⟩] = h :: rest :=
      List.exists_cons_of_ne_nil (List.append_ne_nil_of_right_ne_nil _ (List.cons_ne_nil _ _))
    rw [if_neg low, if_neg low, whole]
    dsimp only
    rw [← whole, List.foldl_append, List.foldl_cons, List.foldl_nil, deliver, if_neg fun less => low (Or.inr less)]
    exact congrArg (· ++ _) (deliver_files toFiles _ given _)

theorem apply_ready (ready : Ready level l) (use : Use) :
    Ready level (use.apply l) ∧ (use.apply l).console = l.console ++ use.shown level := by
  have standing : l.handlersOf rootName ≠ [] := by
    rw [ready.root]
    exact List.cons_ne_nil _ _
  obtain ⟨handlers, rootLevel⟩ := apply_same standing use
  cases use with
  | install setting? choice directory =>
      rw [Use.apply, ((install_installs l setting? choice directory).again standing).1]
      exact ⟨ready, (List.append_nil _).symm⟩
  | emit logger given message =>
      refine ⟨ready_of_same ready handlers rootLevel ?_, emit_shown ready logger given message⟩
      obtain ⟨console, folder, _, emitted⟩ := emit_same l logger given message
      rw [Use.apply, emitted]
      exact know_unknown ready.unknown logger

theorem run_shown (ready : Ready level l) (uses : List Use) :
    (run l uses).console = l.console ++ uses.flatMap (Use.shown level) := by
  induction uses generalizing l with
  | nil => exact (List.append_nil _).symm
  | cons use uses ih =>
      obtain ⟨ready', console⟩ := apply_ready ready use
      rw [List.flatMap_cons, ← List.append_assoc, ← console]
      exact ih ready'

theorem start_ready {folder : Folder}
    (attaches : Attaches level fileLoggers files
      ({ start folder with rootLevel := level }.attach rootName ⟨.console, level⟩) l') : Ready level l' where
  rootLevel := attaches.rootLevel
  root := by
    have apart : files.filter (fun p => p.1 = rootName) = [] := by
      refine List.filter_eq_nil_iff.mpr fun p member root => ?_
      have absurd := attaches.loggers.subset (List.mem_map_of_mem member)
      rw [of_decide_eq_true root] at absurd
      revert absurd
      decide
    rw [handlersOf, attaches.handlers]
    simp [attach, start, apart]
  files p member other := by
    rw [attaches.handlers] at member
    rcases List.mem_cons.mp member with rfl | file
    · exact (other rfl).elim
    · obtain ⟨place, sink⟩ := attaches.sinks p file
      exact ⟨place, congrArg LogHandler.sink sink⟩
  unknown := by
    rw [attaches.known]
    change rootName ∉ fileLoggers
    decide

-- From the start, with a setup that finds its level: the console shows each later record that is above 0 and not
-- below this level, once and in order, and nothing else, whatever other setups come between them and whether or
-- not the files could be opened.
theorem console_shows_records (folder : Folder) (asked : Level.ofValue setting? choice = .ok level) (directory : Value)
    (uses : List Use) :
    (run ((start folder).install setting? choice directory).1 uses).console = uses.flatMap (Use.shown level) := by
  obtain ⟨files, attaches, _⟩ := (install_installs (start folder) setting? choice directory).made rfl level asked
  rw [run_shown (start_ready attaches), attaches.console]
  rfl

end Loggers

end SqlScope.Logging
