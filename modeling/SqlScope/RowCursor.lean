import SqlScope.Connection
import SqlScope.Release

set_option autoImplicit false

namespace SqlScope

open SqlScope.Action

structure RowCursor where
  index : Nat
  cursor : RawCursor
  columns : List Column

namespace RowCursor

def ofCursor (q : RawCursor) : Action RowCursor := do
  let columns ← ofExcept (Column.ofDescription (← q.description))
  pure ⟨← fresh, q, columns⟩

def state (c : RowCursor) : Action RowCursorState := do
  return (← get).rowCursors.get c.index

def put (c : RowCursor) (s : RowCursorState) : Action Unit :=
  modify fun w => { w with rowCursors := w.rowCursors.put c.index s }

def setRow (c : RowCursor) (row : Option Row) : Action Unit := do
  c.put { ← c.state with row }

-- A driver that does not know the number of rows says -1 or nothing at all.
def rowCount (c : RowCursor) : Action Int := do
  return (← orMissing c.cursor.rowCount none).getD (-1)

def scrolls (c : RowCursor) : Action Bool := do
  return (← orMissing c.cursor.scrollSupport .absent) == .method

def row (c : RowCursor) : Action Row := do
  match (← c.state).row with
  | some row => pure row
  | none => throw (Kind.positioning.failure "Cursor is not positioned on a row")

def get (c : RowCursor) (i : Int) : Action Value := do
  ofExcept ((← c.row).get i)

def advance (c : RowCursor) : Action (Option Row) := do
  let values ← wrapping .execution "Failed to fetch row" c.cursor.fetch
  let row := values.map fun values => (⟨values, c.columns⟩ : Row)
  c.setRow row
  pure row

def next (c : RowCursor) : Action Bool := do
  return (← c.advance).isSome

def jump (c : RowCursor) (position : Int) : Action Bool :=
  onOrdinary
    (do
      c.cursor.scroll (position - 1)
      pure true)
    fun f =>
      if f.kind = .index then pure false
      else throw (f.wrap .positioning ("Cannot move cursor to row " ++ toString position))

-- Makes the row `position` current; rows are counted from 1.
def goTo (c : RowCursor) (position : Int) : Action Bool := do
  if position < 1 then
    throw (Kind.value.failure ("Row position must be >= 1, got " ++ toString position))
  else if ← c.scrolls then
    let count ← c.rowCount
    if 0 ≤ count ∧ count < position then pure false
    else if ← c.jump position then c.next
    else pure false
  else throw (Kind.positioning.failure "Cursor does not support random access")

def close (c : RowCursor) : Action Unit := do
  if (← c.state).closed then pure ()
  else
    c.put ⟨none, true⟩
    c.cursor.close

end RowCursor

end SqlScope
