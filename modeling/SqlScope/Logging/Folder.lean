import Std.Data.HashSet

/-!
Folders, the plain files in them, and the way to them. A place is the list of names on the way down
from the top folder, which is always there. Places outside begin with a step up or with the root,
and the folders there that lead to the top folder exist too. Names and written paths have a greatest
length, counted in bytes.
-/
set_option autoImplicit false

namespace SqlScope.Logging

abbrev Place := List String

namespace Place

def root : Place := ["/"]

def text (p : Place) : String := "/".intercalate p

def topSize : Nat := 16

def size (p : Place) : Nat :=
  let below := p.text.utf8ByteSize
  if p.head? = some "/" then below - 1 else topSize + 1 + below

def isOutside (p : Place) : Bool := p.head?.any ["..", "/"].contains

def above (p : Place) : Place :=
  match p.getLast? with
  | none | some ".." => p ++ [".."]
  | some "/" => p
  | some _ => p.dropLast

end Place

def maxNameSize : Nat := 255

def maxPathSize : Nat := 4095

-- A step on the way, with the length of the path as it is written up to here.
structure Step where
  name : String
  size : Nat

def Step.listFrom (size : Nat) : List String → List Step
  | [] => []
  | name :: rest =>
    let size := size + name.utf8ByteSize
    if name.isEmpty then listFrom (size + 1) rest else ⟨name, size⟩ :: listFrom (size + 1) rest

structure Route where
  start : Place
  steps : List Step

def Route.ofString (s : String) : Route :=
  ⟨if s.toList.head? = some '/' then Place.root else [], Step.listFrom 0 (s.splitOn "/")⟩

def Route.names (r : Route) : List String := r.steps.map (·.name)

inductive FolderProblem where
  | fileExists
  | notAFolder
  | isAFolder
  | notFound
  | nameTooLong
  | embeddedNull
  | tooDeep
deriving DecidableEq

structure Folder where
  folders : Std.HashSet Place
  files : List (Place × List String)

namespace Folder

def empty : Folder := ⟨∅, []⟩

def isFile (t : Folder) (p : Place) : Bool := (t.files.lookup p).isSome

def isFolder (t : Folder) (p : Place) : Bool :=
  p.all (· == "..") || p == Place.root || t.folders.contains p

def addFolder (t : Folder) (p : Place) : Folder :=
  if t.isFolder p then t else { t with folders := t.folders.insert p }

def hasNull (name : String) : Bool := name.toList.contains '\x00'

def step (t : Folder) (here : Place) (name : String) : Except FolderProblem Place :=
  if t.isFile here then .error .notAFolder
  else if !t.isFolder here then .error .notFound
  else if name = "." then .ok here
  else if name = ".." then .ok (Place.above here)
  else if name.utf8ByteSize > maxNameSize then .error .nameTooLong
  else .ok (here ++ [name])

def walk (t : Folder) (here : Place) : List String → Except FolderProblem Place
  | [] => .ok here
  | name :: rest =>
    match t.step here name with
    | .ok p => t.walk p rest
    | .error e => .error e

def find (t : Folder) (start : Place) (size : Nat) (names : List String) :
    Except FolderProblem Place :=
  if names.any hasNull then .error .embeddedNull
  else if size > maxPathSize then .error .nameTooLong
  else t.walk start names

def hasFolder (t : Folder) (start : Place) (size : Nat) (names : List String) : Bool :=
  match t.find start size names with
  | .ok p => t.isFolder p
  | .error _ => false

def leadsSomewhere (t : Folder) (start : Place) (size : Nat) (names : List String) : Bool :=
  match t.find start size names with
  | .ok p => t.isFile p || t.isFolder p
  | .error _ => false

def makeLast (t : Folder) (start : Place) (size : Nat) (before : List String) (name : String) :
    Except FolderProblem Folder :=
  match t.find start size (before ++ [name]) with
  | .error e => .error e
  | .ok p =>
    if name = "." ∨ name = ".." ∨ t.isFile p ∨ t.isFolder p then .error .fileExists
    else .ok (t.addFolder p)

def ensureLast (t : Folder) (start : Place) (size : Nat) (before : List String) (name : String) :
    Folder × Option FolderProblem :=
  match t.makeLast start size before name with
  | .ok made => (made, none)
  | .error e => (t, if t.hasFolder start size (before ++ [name]) then none else some e)

-- Makes all folders on a way, which is given from its end; those made before a problem stay, and
-- no more than `depth` of them may be missing before the end. A way that ends in `.` is made as soon
-- as what is before its end is made. A plain file in the place of a folder shows again in the next
-- step.
def makeBack (t : Folder) (start : Place) (depth : Nat) :
    List Step → Folder × Option FolderProblem
  | [] => (t, none)
  | [s] => t.ensureLast start s.size [] s.name
  | s :: last :: back =>
    let before := (last.name :: back.map (·.name)).reverse
    if t.leadsSomewhere start last.size before then t.ensureLast start s.size before s.name
    else if depth = 0 then (t, some .tooDeep)
    else match t.makeBack start (depth - 1) (last :: back) with
      | (t, none) | (t, some .fileExists) =>
        if s.name = "." then (t, none) else t.ensureLast start s.size before s.name
      | (t, some e) => (t, some e)

def maxDepth : Nat := 990

-- The whole text, with what may follow its last name, is the path of the last folder.
def make (t : Folder) (text : String) : Folder × Option FolderProblem :=
  let size := text.utf8ByteSize
  let route := Route.ofString text
  match route.steps.reverse with
  | [] =>
    (t, if text.isEmpty then some .notFound
      else if size > maxPathSize then some .nameTooLong else none)
  | last :: back => t.makeBack route.start maxDepth (⟨last.name, size⟩ :: back)

def openFile (t : Folder) (p : Place) : Except FolderProblem Folder :=
  if p.size > maxPathSize then .error .nameTooLong
  else if t.isFolder p then .error .isAFolder
  else if t.isFile p then .ok t
  else .ok { t with files := t.files ++ [(p, [])] }

def append (t : Folder) (p : Place) (lines : List String) : Folder :=
  { t with files := t.files.map fun f => if f.1 = p then (p, f.2 ++ lines) else f }

def shown (t : Folder) : List (Place × List String) := t.files.filter fun f => !f.1.isOutside

end Folder

end SqlScope.Logging
