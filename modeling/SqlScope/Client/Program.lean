import SqlScope.Session.Reading

/-!
Client programs. A step uses the objects in its scope; a step that takes a callback holds the
callback's body, which may use the same session again.
-/
set_option autoImplicit false

namespace SqlScope.Client

inductive Handler where
  | nothing
  | everything
  | below (k : Kind)

def Handler.stops : Handler → Failure → Bool
  | nothing, _ => false
  | everything, _ => true
  | below k, f => f.kind.isBelow k

inductive SourceStep where
  | create
  | extract
  | closeAll

inductive ConnectionStep where
  | get (name : String)
  | set (name : String) (value : Value) (reading : Reading Value)
  | raw
  | commit
  | rollback
  | close
  | batch (sql : String) (given : Option (List Given))
  | report
  | switchToManual
  | statement (sql : String)

inductive StatementStep where
  | set (i : Int) (value : Value)
  | clear
  | enqueue
  | close
  | bind (given : Given)
  | bindBatch (given : Option (List Given))
  | parameters
  | query
  | update
  | batch

inductive Projection where
  | values
  | map
  | column (i : Int)

inductive CursorStep where
  | next
  | rowCount
  | scrolls
  | get (i : Int)
  | goTo (position : Int)
  | close
  | row
  | columns
  | move (offset : Int)
  | convert (projection : Projection) (offset limit : Int)

inductive RowStep where
  | get (i : Int)
  | size
  | map
  | values

inductive SessionStep where
  | new
  | isActive
  | close
  | report

mutual

inductive Step where
  | source (step : SourceStep)
  | connection (step : ConnectionStep)
  | statement (step : StatementStep)
  | cursor (step : CursorStep)
  | row (step : RowStep)
  | session (step : SessionStep)
  | fail (fault : Fault)
  | block (body : Body)
  | wrapping (kind : Kind) (message : String) (body : Body)
  | releasing (name what : String) (kind : Kind) (closeFault : Option Fault) (body : Body)
  | closeAfterFailure (name what : String) (closeFault : Option Fault)
  | query (sql : String) (parameters : Parameters) (body : Body)
  | update (sql : String) (parameters : Parameters)
  | transaction (savepoint : Value) (body : Body)
  | openBound (sql : String) (parameters : Parameters)
  | usingStatement (body : Body)
  | usingCursor (body : Body)
  | eachRow (body : Body)
  | walk (offset maxRows : Int) (body : Body)
  | allRows (body : Body)
  | firstRowOnly (body : Body)
  | duringSession (body : Body)
  | usingSession (body : Body)
  | holding (body : Body)
  | sessionTransaction (savepoint : Value) (body : Body)
  | sessionQuery (sql : String) (parameters : Parameters) (body : Body)
  | sessionUpdate (sql : String) (parameters : Parameters) (consumer : Callback)
  | sessionBatch (sql : String) (given : Option (List Given)) (consumer : Callback)
  | scan (sql : String) (parameters : Parameters) (offset maxRows : Int)
      (columns row : Callback)
  | records (sql : String) (parameters : Parameters) (offset maxRows : Int)
  | firstRecord (sql : String) (parameters : Parameters)

-- What is given for the placeholders, or steps that bind them.
inductive Parameters where
  | given (given : Given)
  | steps (body : Body)

inductive Callback where
  | absent
  | runs (body : Body)

inductive Body where
  | done (result : Value)
  | next (handler : Handler) (step : Step) (rest : Body)

end

inductive SourceChoice where
  | plain
  | pool
  | settings (pairs : List (Label × Value))
  | dsn (dsn : String) (given : Entries String Value)

def SourceChoice.open : SourceChoice → Action Source
  | plain => pure .plain
  | pool => pure .pool
  | settings pairs => pure (.settings (Entries.ofPairs pairs))
  | dsn text given => Source.openPool text given

structure Program where
  source : SourceChoice
  body : Body

end SqlScope.Client
