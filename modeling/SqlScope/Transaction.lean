import SqlScope.Connection
import SqlScope.Release
import SqlScope.Savepoint

set_option autoImplicit false

namespace SqlScope

open SqlScope.Action

variable {α : Type}

-- Only a connection that says it commits by itself needs to be told otherwise.
def Connection.switchToManual (c : Connection) : Action Unit := do
  match ← c.readOr "autocommit" .null with
  | .bool true => c.assign "autocommit" (.bool false) (.gives (.bool false))
  | _ => pure ()

namespace Transaction

def runSql (c : Connection) (sql : String) : Action Unit := do
  let q ← c.openCursor
  releasing q.close "cursor" .execution (q.execute sql none)

def begin (c : Connection) (savepoint : Option String) : Action Unit := do
  c.switchToManual
  match savepoint with
  | none => pure ()
  | some name => runSql c ("SAVEPOINT " ++ name)

def rollBack (c : Connection) : Option String → Action Unit
  | some name => do
    runSql c ("ROLLBACK TO SAVEPOINT " ++ name)
    debug .commands ("Rolled back to savepoint " ++ name)
  | none => do
    c.rollback
    debug .commands "Rolled back transaction"

def rollBackAfterFailure (c : Connection) (savepoint : Option String) : Action Unit :=
  onOrdinary (rollBack c savepoint) fun f =>
    warn .commands ("Rollback failed after transaction error: " ++ f.text)

end Transaction

-- Runs `op` in a transaction. A failing begin is not rolled back, a failing `op` or commit is.
def Connection.transact (c : Connection) (op : Connection → Action α) (savepoint : Value) :
    Action α := do
  let name ← Savepoint.request savepoint
  onOrdinary (Transaction.begin c name) fun f =>
    throw (f.wrap .transaction "Cannot begin transaction")
  let v ← onOrdinary
    (do
      let v ← op c
      c.commit
      pure v)
    fun f => do
      Transaction.rollBackAfterFailure c name
      throw (if f.isLayer then f else f.wrap .transaction "Transaction rolled back")
  debug .commands "Committed transaction"
  pure v

end SqlScope
