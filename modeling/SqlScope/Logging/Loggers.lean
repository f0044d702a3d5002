import SqlScope.Logging.Folder
import SqlScope.Logging.Level
import SqlScope.Text.Lines

set_option autoImplicit false

namespace SqlScope.Logging

inductive Sink where
  | nowhere
  | console
  | file (place : Place)

structure LogHandler where
  sink : Sink
  level : Level

-- `known` holds the loggers other than the root that were used so far.
structure Loggers where
  rootLevel : Level
  known : List String
  handlers : List (String × LogHandler)
  console : List String
  folder : Folder

inductive Problem where
  | level (problem : LevelProblem)
  | folder (problem : FolderProblem)
  | notAPath (v : Value)

def Problem.message? : Problem → Option String
  | level problem => some problem.message
  | folder .embeddedNull => some "embedded null byte"
  | folder .tooDeep => some "maximum recursion depth exceeded"
  | folder _ => none
  | notAPath v => some ("expected str, bytes or os.PathLike object, not " ++ v.typeName)

def rootName : String := "root"

def isRoot (logger : String) : Bool := logger == "" || logger == rootName

def maxBytes : Nat := 5 * 1024 * 1024
def backups : Nat := 3

def fileLoggers : List String := ["sqlsession.session", "sqlsession.commands"]

def fileName (logger : String) : String :=
  String.ofList (logger.toList.map fun c => if c = '.' then '_' else c) ++ ".log"

-- The known loggers above one whose name is given from its end, nearest first. Above a dot stands
-- what is before it; of two dots side by side, the first one counts only if what is before the second
-- is a known logger itself.
def knownAbove (known : List String) : List Char → List String
  | [] => []
  | '.' :: c :: back =>
    let name := String.ofList (c :: back).reverse
    if known.contains name then name :: knownAbove known (c :: back) else knownAbove known back
  | _ :: back => knownAbove known back

namespace Loggers

def start (folder : Folder) : Loggers := ⟨.number 30, fileLoggers, [], [], folder⟩

def handlersOf (l : Loggers) (logger : String) : List LogHandler :=
  (l.handlers.filter fun p => p.1 = logger).map (·.2)

def attach (l : Loggers) (logger : String) (h : LogHandler) : Loggers :=
  { l with handlers := l.handlers ++ [(logger, h)] }

def attachFiles (l : Loggers) (directory : Place) (level : Level) :
    List String → Loggers × Option Problem
  | [] => (l, none)
  | name :: rest =>
    let place := directory ++ [fileName name]
    match l.folder.openFile place with
    | .error e => (l, some (.folder e))
    | .ok folder =>
      let l := { l with folder := folder }.attach name ⟨.file place, level⟩
      attachFiles l directory level rest

def openFiles (l : Loggers) (level : Level) (directory : String) : Loggers × Option Problem :=
  let (folder, trouble) := l.folder.make directory
  let l := { l with folder := folder }
  let route := Route.ofString directory
  match trouble, folder.walk route.start route.names with
  | some e, _ | none, .error e => (l, some (.folder e))
  | none, .ok place => l.attachFiles place level fileLoggers

def install (l : Loggers) (setting? : Option String) (choice directory : Value) :
    Loggers × Option Problem :=
  if !(l.handlersOf rootName).isEmpty then (l, none)
  else match Level.ofValue setting? choice with
    | .error e => (l, some (.level e))
    | .ok level =>
      let l := { l with rootLevel := level }.attach rootName ⟨.console, level⟩
      match directory with
      | .text s => l.openFiles level s
      | v => (l, some (.notAPath v))

def chain (l : Loggers) (logger : String) : List String :=
  if isRoot logger then [rootName]
  else logger :: knownAbove l.known logger.toList.reverse ++ [rootName]

def linesOf (text : String) : List String :=
  (Text.splitLines (text.toList ++ ['\n'])).map String.ofList

def line (logger : String) (level : Level) (message : String) : String :=
  "TIME [" ++ level.name ++ "] " ++ (if isRoot logger then rootName else logger) ++ ": " ++ message

def deliver (lines : List String) (level : Level) (l : Loggers) (h : LogHandler) : Loggers :=
  if level.rank < h.level.rank then l
  else match h.sink with
    | .nowhere => l
    | .console => { l with console := l.console ++ lines }
    | .file place => { l with folder := l.folder.append place lines }

def know (l : Loggers) (logger : String) : Loggers :=
  if isRoot logger || l.known.contains logger then l else { l with known := l.known ++ [logger] }

-- A record below the root's level is dropped, and so is one without a level above 0. With no
-- handler on its way, a record from 30 on goes to the console as it is.
def emit (l : Loggers) (logger : String) (level : Level) (message : String) : Loggers :=
  let l := l.know logger
  if level.rank ≤ 0 ∨ level.rank < l.rootLevel.rank then l
  else match (l.chain logger).flatMap l.handlersOf with
    | [] => if level.rank < 30 then l else { l with console := l.console ++ linesOf message }
    | hs => hs.foldl (deliver (linesOf (line logger level message)) level) l

end Loggers

end SqlScope.Logging
