import SqlScope.Driver.Script
import SqlScope.Event

/-!
Everything that a run can change, and the actions on it. An action ends with a value or a failure;
either way the world it leaves behind holds all that happened before.
-/
set_option autoImplicit false

namespace SqlScope

structure ProxyState where
  released : Value
  attributes : Entries String Value

instance : Inhabited ProxyState := ⟨⟨.bool false, []⟩⟩

structure StatementState where
  parameters : Entries Nat Value
  queue : List (List Value)
  closed : Bool

instance : Inhabited StatementState := ⟨⟨[], [], false⟩⟩

structure RowCursorState where
  row : Option Row
  closed : Bool

instance : Inhabited RowCursorState := ⟨⟨none, false⟩⟩

structure SessionState where
  binding : Option Connection
  inTransaction : Bool

instance : Inhabited SessionState := ⟨⟨none, false⟩⟩

-- `rewinds` bounds how many rows more than are left a visit may take, when its visitor moves the
-- cursor back.
structure World where
  connections : Table RawConnectionState
  opened : Nat
  pool : PoolState
  proxies : Table ProxyState
  statements : Table StatementState
  rowCursors : Table RowCursorState
  sessions : Table SessionState
  handles : Nat
  savepoints : Nat
  rewinds : Nat
  history : List Event

def World.start (connections : List RawConnectionState) (pool : PoolState) (rewinds : Nat) :
    World :=
  ⟨⟨connections⟩, 0, pool, default, default, default, default, 0, 0, rewinds, []⟩

def World.events (w : World) : List Event := w.history.reverse

abbrev Action := EStateM Failure World

namespace Action

variable {α : Type}

def outcome (a : Action α) : Action (Except Failure α) := fun w =>
  match a w with
  | .ok v w' => .ok (.ok v) w'
  | .error f w' => .ok (.error f) w'

def ofExcept : Except Fault α → Action α
  | .ok v => pure v
  | .error f => throw f.raised

def note (e : Event) : Action Unit :=
  modify fun w => { w with history := e :: w.history }

def debug (channel : Channel) (text : String) : Action Unit :=
  note (.log channel .debug text)

def warn (channel : Channel) (text : String) : Action Unit :=
  note (.log channel .warning text)

def fresh : Action Nat := do
  let w ← get
  set { w with handles := w.handles + 1 }
  pure w.handles

end Action

end SqlScope
