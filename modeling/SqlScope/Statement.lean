import SqlScope.RowCursor

/-!
Statements: one SQL text on one driver cursor, with the values bound to its placeholders and a queue
of batch entries. Placeholders are counted from 1, and all up to the last one must be bound.
-/
set_option autoImplicit false

namespace SqlScope

open SqlScope.Action

namespace Placeholders

def last (es : Entries Nat Value) : Nat := es.keys.foldl max 0

def all (es : Entries Nat Value) : List Nat := List.range' 1 (last es)

def missing (es : Entries Nat Value) : List Nat := (all es).filter fun i => (es.get? i).isNone

def values (es : Entries Nat Value) : List Value := (all es).filterMap es.get?

end Placeholders

structure Statement where
  index : Nat
  sql : String
  cursor : RawCursor

namespace Statement

def on (c : Connection) (sql : String) : Action Statement := do
  let cursor ← wrapping .execution "Failed to open statement" c.openCursor
  pure ⟨← fresh, sql, cursor⟩

def state (s : Statement) : Action StatementState := do
  return (← get).statements.get s.index

def update (s : Statement) (f : StatementState → StatementState) : Action Unit :=
  modify fun w => { w with statements := w.statements.put s.index (f (w.statements.get s.index)) }

def set (s : Statement) (i : Int) (v : Value) : Action Unit :=
  if i < 1 then throw (Kind.value.failure ("Parameter index must be >= 1, got " ++ toString i))
  else s.update fun t => { t with parameters := t.parameters.insert i.toNat v }

def clear (s : Statement) : Action Unit := s.update fun t => { t with parameters := [] }

def unbound (s : Statement) (gaps : List Nat) : Failure :=
  let missing := Value.list (gaps.map fun i => .int (Int.ofNat i))
  Kind.execution.failure ("Parameter(s) " ++ missing.literal ++ " not set for: " ++ s.sql)

def parameters (s : Statement) : Action (List Value) := do
  let es := (← s.state).parameters
  match Placeholders.missing es with
  | [] => pure (Placeholders.values es)
  | gaps => throw (s.unbound gaps)

def enqueue (s : Statement) : Action Unit := do
  let entry ← s.parameters
  s.update fun t => { t with queue := t.queue ++ [entry] }

-- Without values the driver gets the SQL text alone.
def execute (s : Statement) (parameters : List Value) : Action Unit := do
  debug .statement ("Executing " ++ s.sql ++ " with " ++ toString parameters.length ++
    " parameter(s)")
  wrapping .execution ("Failed to execute " ++ Text.quoted s.sql)
    (s.cursor.execute s.sql (if parameters.isEmpty then none else some parameters))

def count (s : Statement) : Action Int := do
  return (← s.cursor.rowCount).getD (-1)

def query (s : Statement) : Action RowCursor := do
  s.execute (← s.parameters)
  RowCursor.ofCursor s.cursor

def runUpdate (s : Statement) : Action Int := do
  s.execute (← s.parameters)
  s.count

def executeAll (s : Statement) : List (List Value) → Action (List Int)
  | [] => pure []
  | entry :: rest => do
    s.execute entry
    let n ← s.count
    let ns ← s.executeAll rest
    pure (n :: ns)

-- The queue is emptied before its first entry runs.
def runBatch (s : Statement) : Action (List Int) := do
  let queue := (← s.state).queue
  s.update fun t => { t with queue := [] }
  s.executeAll queue

def close (s : Statement) : Action Unit := do
  if (← s.state).closed then pure ()
  else
    s.update fun t => { t with closed := true }
    s.cursor.close

end Statement

inductive Given where
  | nothing
  | list (values : List Value)
  | text (s : String)

abbrev Binder := Statement → Action Unit

namespace Binder

def setFrom (s : Statement) : Int → List Value → Action Unit
  | _, [] => pure ()
  | i, v :: rest => do
    s.set i v
    setFrom s (i + 1) rest

-- A text stands for its characters.
def ofGiven : Given → Binder
  | .nothing, _ => pure ()
  | .list values, s => setFrom s 1 values
  | .text t, s => setFrom s 1 (t.toList.map fun c => .text (String.ofList [c]))

def ofEntries : List Given → Binder
  | [], _ => pure ()
  | entry :: rest, s => do
    ofGiven entry s
    s.enqueue
    s.clear
    ofEntries rest s

-- No batch at all counts as an empty one.
def ofBatch (batch : Option (List Given)) : Binder := ofEntries (batch.getD [])

end Binder

def Statement.openBound (c : Connection) (sql : String) (bind : Binder) : Action Statement := do
  let s ← Statement.on c sql
  match ← outcome (bind s) with
  | .ok _ => pure s
  | .error f =>
    closeAfterFailure s.close "statement"
    throw f

end SqlScope
