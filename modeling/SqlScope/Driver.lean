import SqlScope.World

/-!
The calls that a driver takes. Each call is noted together with how it ended, before its fault is
raised; reading an attribute leaves no note.
-/
set_option autoImplicit false

namespace SqlScope

open SqlScope.Action

def refuse {α : Type} (call : Call) (f : Fault) : Action α := do
  note (.call call (some f))
  throw f.raised

def attempt (call : Call) : Option Fault → Action Unit
  | none => note (.call call none)
  | some f => refuse call f

def Reading.get {α : Type} : Reading α → Action α
  | .gives a => pure a
  | .raises f => throw f.raised

-- The k-th opening is the k-th connection, even if it fails.
def openNext (call : Call) : Action RawConnection := do
  let w ← get
  set { w with opened := w.opened + 1 }
  attempt call (w.connections.get w.opened).openFault
  pure ⟨w.opened⟩

namespace RawConnection

def state (c : RawConnection) : Action RawConnectionState := do
  return (← get).connections.get c.index

def update (c : RawConnection) (f : RawConnectionState → RawConnectionState) : Action Unit :=
  modify fun w =>
    { w with connections := w.connections.put c.index (f (w.connections.get c.index)) }

def openCursor (c : RawConnection) : Action RawCursor := do
  let s ← c.state
  c.update fun s => { s with cursorFaults := s.cursorFaults.tail }
  attempt (.openCursor c) s.cursorFaults.due
  c.update fun s => { s with cursorsOpened := s.cursorsOpened + 1 }
  pure ⟨c, s.cursorsOpened⟩

def commit (c : RawConnection) : Action Unit := do
  let s ← c.state
  c.update fun s => { s with commitFaults := s.commitFaults.tail }
  attempt (.commit c) s.commitFaults.due

def rollback (c : RawConnection) : Action Unit := do
  let s ← c.state
  c.update fun s => { s with rollbackFaults := s.rollbackFaults.tail }
  attempt (.rollback c) s.rollbackFaults.due

def markClosed (s : RawConnectionState) : RawConnectionState :=
  if (s.attributes.get? "closed").isSome then
    { s with attributes := s.attributes.insert "closed" (.gives (.bool true)) }
  else s

def close (c : RawConnection) : Action Unit := do
  let s ← c.state
  c.update fun s => { s with closeFaults := s.closeFaults.tail }
  attempt (.close c) s.closeFaults.due
  c.update markClosed

def read (c : RawConnection) (name : String) : Action Value := do
  match (← c.state).attributes.get? name with
  | some r => r.get
  | none => throw (Kind.attribute.failure name)

-- The driver shows the `value` that it gets; from then on the attribute reads as `reading`.
def assign (c : RawConnection) (name : String) (value : Value) (reading : Reading Value) :
    Action Unit := do
  let s ← c.state
  c.update fun s => { s with assignFaults := s.assignFaults.tail }
  attempt (.assign c name value) s.assignFaults.due
  c.update fun s => { s with attributes := s.attributes.insert name reading }

end RawConnection

namespace RawCursor

def state (q : RawCursor) : Action RawCursorState := do
  return (← q.connection.state).cursors.get q.index

def update (q : RawCursor) (f : RawCursorState → RawCursorState) : Action Unit :=
  q.connection.update fun s =>
    { s with cursors := s.cursors.put q.index (f (s.cursors.get q.index)) }

def execute (q : RawCursor) (sql : String) (parameters : Option (List Value)) : Action Unit := do
  let result := (← q.connection.state).results.head?.getD default
  q.connection.update fun s => { s with results := s.results.tail }
  q.update fun _ => if result.fault.isSome then default else result.opened
  attempt (.execute q sql parameters) result.fault

def description (q : RawCursor) : Action (Option (List ColumnEntry)) := do
  (← q.state).result.description.get

def rowCount (q : RawCursor) : Action (Option Int) := do
  (← q.state).result.rowCount.get

def scrollSupport (q : RawCursor) : Action ScrollSupport := do
  (← q.state).result.scroll.get

def rowsLeft (q : RawCursor) : Action Nat := do
  let s ← q.state
  pure (s.result.rows.length - s.position)

def fetch (q : RawCursor) : Action (Option (List Value)) := do
  let s ← q.state
  q.update fun s => { s with fetchFaults := s.fetchFaults.tail }
  attempt (.fetch q) s.fetchFaults.due
  match s.result.rows[s.position]? with
  | none => pure none
  | some values =>
    q.update fun s => { s with position := s.position + 1 }
    pure (some values)

def destination (s : RawCursorState) (position : Int) : Option Fault :=
  if position < 0 ∨ position ≥ s.result.rows.length then
    some (Kind.index.fault "scroll destination out of bounds")
  else none

-- Rows are counted from 0 here.
def scroll (q : RawCursor) (position : Int) : Action Unit := do
  let s ← q.state
  q.update fun s => { s with scrollFaults := s.scrollFaults.tail }
  attempt (.scroll q position) (s.scrollFaults.due.or (destination s position))
  q.update fun s => { s with position := position.toNat }

def close (q : RawCursor) : Action Unit := do
  let s ← q.connection.state
  q.connection.update fun s => { s with closeCursorFaults := s.closeCursorFaults.tail }
  attempt (.closeCursor q) s.closeCursorFaults.due

end RawCursor

namespace Pool

def update (f : PoolState → PoolState) : Action Unit :=
  modify fun w => { w with pool := f w.pool }

-- Assumption, one index is one lending: what was handed back is never lent again under its old index. A pool
-- that lends a physical connection anew lends it as the next one here.
def borrow : Action RawConnection := do
  let due := (← get).pool.borrowFaults.due
  update fun p => { p with borrowFaults := p.borrowFaults.tail }
  match due with
  | none => openNext .borrow
  | some f => refuse .borrow f

def giveBack (held : Held) : Action Unit := do
  let due := (← get).pool.giveBackFaults.due
  update fun p => { p with giveBackFaults := p.giveBackFaults.tail }
  attempt (.giveBack held) due

def close : Action Unit := do
  let due := (← get).pool.closeFaults.due
  update fun p => { p with closeFaults := p.closeFaults.tail }
  attempt .closePool due

end Pool

end SqlScope
