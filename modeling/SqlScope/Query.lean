import SqlScope.Statement

set_option autoImplicit false

namespace SqlScope.Connection

variable {α : Type}

def withStatement (c : Connection) (sql : String) (bind : Binder) (body : Statement → Action α) :
    Action α := do
  let s ← Statement.openBound c sql bind
  releasing s.close "statement" .execution (body s)

def withResults (c : Connection) (sql : String) (bind : Binder) (consumer : RowCursor → Action α) :
    Action α :=
  c.withStatement sql bind fun s => do
    let r ← s.query
    releasing r.close "result cursor" .execution (consumer r)

def runUpdate (c : Connection) (sql : String) (bind : Binder) : Action Int :=
  c.withStatement sql bind Statement.runUpdate

def runBatch (c : Connection) (sql : String) (batch : Option (List Given)) : Action (List Int) :=
  c.withStatement sql (Binder.ofBatch batch) Statement.runBatch

end SqlScope.Connection
