import SqlScope.Row
import SqlScope.Table

/-!
What a database driver will do. A connection's record says how each of its coming calls ends, what
its attributes read as, and which results its statements get; a call uses up the head of its
schedule.
-/
set_option autoImplicit false

namespace SqlScope

inductive Reading (α : Type) where
  | gives (a : α)
  | raises (f : Fault)

-- The k-th call raises the k-th entry, if there is one.
abbrev Schedule := List (Option Fault)

def Schedule.due (s : Schedule) : Option Fault := s.head?.join

-- Whether a cursor has a scroll method, an attribute of that name that cannot be called, or
-- neither.
inductive ScrollSupport where
  | absent | attribute | method
deriving DecidableEq

structure Result where
  fault : Option Fault
  description : Reading (Option (List ColumnEntry))
  rows : List (List Value)
  rowCount : Reading (Option Int)
  scroll : Reading ScrollSupport
  fetchFaults : Schedule
  scrollFaults : Schedule

instance : Inhabited Result := ⟨⟨none, .gives none, [], .gives (some (-1)), .gives .absent, [], []⟩⟩

structure RawCursorState where
  result : Result
  position : Nat
  fetchFaults : Schedule
  scrollFaults : Schedule

def Result.opened (r : Result) : RawCursorState := ⟨r, 0, r.fetchFaults, r.scrollFaults⟩

instance : Inhabited RawCursorState := ⟨(default : Result).opened⟩

structure RawConnectionState where
  openFault : Option Fault
  home : String
  attributes : Entries String (Reading Value)
  results : List Result
  cursorFaults : Schedule
  commitFaults : Schedule
  rollbackFaults : Schedule
  closeFaults : Schedule
  assignFaults : Schedule
  closeCursorFaults : Schedule
  cursorsOpened : Nat
  cursors : Table RawCursorState

instance : Inhabited RawConnectionState :=
  ⟨⟨none, "fakedb.core", [("closed", .gives (.bool false))],
    [], [], [], [], [], [], [], 0, default⟩⟩

structure PoolState where
  newFault : Option Fault
  borrowFaults : Schedule
  giveBackFaults : Schedule
  closeFaults : Schedule

instance : Inhabited PoolState := ⟨⟨none, [], [], []⟩⟩

end SqlScope
