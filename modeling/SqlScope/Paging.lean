import SqlScope.RowCursor

set_option autoImplicit false

namespace SqlScope

open SqlScope.Action

namespace RowCursor

variable {α : Type}

def skip (c : RowCursor) (offset : Int) : Nat → Nat → Action Bool
  | 0, _ => pure true
  | n + 1, skipped => do
    if ← c.next then c.skip offset n (skipped + 1)
    else
      debug .cursor ("Cursor exhausted after " ++ toString skipped ++ " rows, offset " ++
        toString offset ++ " unreachable")
      pure false

-- Moves so that the next row is the one at `offset`; an offset up to 1 moves nowhere.
def moveTo (c : RowCursor) (offset : Int) : Action Bool := do
  if offset ≤ 1 then pure true
  else if ← c.scrolls then c.goTo (offset - 1)
  else c.skip offset (offset - 1).toNat 0

-- How many rows a visit may take: those left, one look past them, and the rewinds.
def patience (c : RowCursor) : Action Nat := do
  return (← c.cursor.rowsLeft) + 1 + (← MonadState.get).rewinds

def visit (c : RowCursor) (f : Row → Action α) : Nat → Option Nat → Action (List α)
  | _, some 0 => pure []
  | 0, _ => throw (Kind.abandoned.failure "too many rows visited")
  | fuel + 1, limit => do
    match ← c.advance with
    | none => pure []
    | some row => do
      let a ← f row
      let rest ← c.visit f fuel (limit.map (· - 1))
      pure (a :: rest)

theorem visit_succ (c : RowCursor) (f : Row → Action α) (fuel : Nat) {limit : Option Nat} (more : limit ≠ some 0) :
    c.visit f (fuel + 1) limit = c.advance >>= fun
      | none => pure []
      | some row => f row >>= fun a => c.visit f fuel (limit.map (· - 1)) >>= fun rest => pure (a :: rest) := by
  cases limit with
  | none => rfl
  | some n =>
      cases n with
      | zero => exact absurd rfl more
      | succ n => rfl

-- A number of rows up to 0 is no limit.
def limitOf (maxRows : Int) : Option Nat :=
  if maxRows ≤ 0 then none else some maxRows.toNat

def walk (c : RowCursor) (offset maxRows : Int) (f : Row → Action α) : Action (List α) := do
  if ← c.moveTo offset then c.visit f (← c.patience) (limitOf maxRows)
  else pure []

def visitEach (c : RowCursor) (f : Row → Action Unit) : Nat → Action Unit
  | 0 => throw (Kind.abandoned.failure "too many rows visited")
  | fuel + 1 => do
    match ← c.advance with
    | none => pure ()
    | some row => do
      f row
      c.visitEach f fuel

def each (c : RowCursor) (f : Row → Action Unit) : Action Unit := do
  c.visitEach f (← c.patience)

def firstOnly (c : RowCursor) (f : Row → Action α) : Action (Option α) := do
  if ← c.next then return some (← f (← c.row)) else pure none

def convert (c : RowCursor) (f : Row → Action α) (offset limit : Int) : Action (List α) :=
  c.walk offset limit f

end RowCursor

end SqlScope
