import SqlScope.Session
import SqlScope.Transaction
import SqlScope.Query

set_option autoImplicit false

namespace SqlScope.Session

open SqlScope.Action

variable {α : Type}

def transact (s : Session) (op : Connection → Action α) (savepoint : Value) : Action α := do
  if (← s.state).inTransaction then
    throw (Kind.nestedTransaction.failure "A transaction is already active on this session")
  else
    s.holding fun c => do
      s.update fun t => { t with inTransaction := true }
      ensuring (s.update fun t => { t with inTransaction := false }) (c.transact op savepoint)

def commitWrite (s : Session) (c : Connection) : Action Unit := do
  if (← s.state).inTransaction then pure ()
  else wrapping .execution "Failed to commit" c.commit

def undoWrite (s : Session) (c : Connection) : Action Unit := do
  if (← s.state).inTransaction then pure ()
  else onOrdinary c.rollback fun f =>
    warn .session ("Rollback after failed write failed: " ++ f.text)

def write (s : Session) (body : Connection → Action α) : Action α :=
  s.holding fun c => do
    match ← outcome (body c) with
    | .error f =>
      s.undoWrite c
      throw f
    | .ok v =>
      s.commitWrite c
      pure v

def withResults (s : Session) (sql : String) (bind : Binder) (consumer : RowCursor → Action α) :
    Action α :=
  s.holding fun c => c.withResults sql bind consumer

def runUpdate (s : Session) (sql : String) (bind : Binder) (consumer : Int → Action Unit) :
    Action Int := do
  let count ← s.write fun c => c.runUpdate sql bind
  consumer count
  pure count

def runBatch (s : Session) (sql : String) (batch : Option (List Given))
    (consumer : List Int → Action Unit) : Action (List Int) := do
  let counts ← s.write fun c => c.runBatch sql batch
  consumer counts
  pure counts

end SqlScope.Session
