import SqlScope.Client.Program

set_option autoImplicit false

namespace SqlScope.Client

open SqlScope.Action

structure Scope where
  source : Source
  session : Session
  connection? : Option Connection
  statement? : Option Statement
  cursor? : Option RowCursor
  row? : Option Row

namespace Scope

def need {α : Type} (name : String) : Option α → Action α
  | some a => pure a
  | none => throw (Kind.notInScope.failure name)

def connection (s : Scope) : Action Connection := need "conn" s.connection?
def statement (s : Scope) : Action Statement := need "stmt" s.statement?
def cursor (s : Scope) : Action RowCursor := need "cursor" s.cursor?
def row (s : Scope) : Action Row := need "row" s.row?

end Scope

def ofPairs (es : Entries String Value) : Value :=
  .list (es.map fun p => .list [.text p.1, p.2])

def ofEntries (es : Entries Label Value) : Value :=
  .list (es.map fun p => .list [p.1.value, p.2])

def ofCounts (counts : List Int) : Value := .list (counts.map .int)

def ofColumns (columns : List Column) : Value :=
  .list (columns.map fun c => .list [c.label, c.name, c.typeCode])

def sourceName : Source → String
  | .plain => "StubSource"
  | .pool => "PooledConnectionSource"
  | .settings _ => "SettingsConnectionSource"

def extract (s : Settings) : Except Fault Value :=
  s.options.map fun options =>
    .list [s.url, (s.credentials.map fun p => Value.list [p.1, p.2]).getD .null,
      (options.map ofEntries).getD .null]

def SourceStep.run (scope : Scope) : SourceStep → Action (Value × Scope)
  | create => do
    let c ← scope.source.create
    pure (.text c.name, { scope with connection? := some c })
  | extract => do
    match scope.source with
    | .settings s => return (← ofExcept (Client.extract s), scope)
    | other => throw (Failure.lacking (sourceName other) "extract_url")
  | closeAll => do
    match scope.source with
    | .pool =>
      Pool.close
      pure (.null, scope)
    | other => throw (Failure.lacking (sourceName other) "close_all")

def ConnectionStep.run (scope : Scope) (step : ConnectionStep) : Action (Value × Scope) := do
  let c ← scope.connection
  match step with
  | get name => return (← c.read name, scope)
  | set name value reading =>
    c.assign name value reading
    pure (.null, scope)
  | raw =>
    match c with
    | .pooled p =>
      match ← p.held with
      | .lent c => pure (.text c.name, { scope with connection? := some (.direct c) })
      | .value v => pure (v, scope)
    | .direct c => return (← c.read "raw_connection", scope)
  | commit =>
    c.commit
    pure (.null, scope)
  | rollback =>
    c.rollback
    pure (.null, scope)
  | close =>
    c.close
    pure (.null, scope)
  | batch sql given => return (ofCounts (← c.runBatch sql given), scope)
  | report => return (ofPairs (← c.report), scope)
  | switchToManual =>
    c.switchToManual
    pure (.null, scope)
  | statement sql =>
    let s ← Statement.on c sql
    pure (.null, { scope with statement? := some s })

def StatementStep.run (scope : Scope) (step : StatementStep) : Action (Value × Scope) := do
  let s ← scope.statement
  match step with
  | set i value =>
    s.set i value
    pure (.null, scope)
  | clear =>
    s.clear
    pure (.null, scope)
  | enqueue =>
    s.enqueue
    pure (.null, scope)
  | close =>
    s.close
    pure (.null, scope)
  | bind given =>
    Binder.ofGiven given s
    pure (.null, scope)
  | bindBatch given =>
    Binder.ofBatch given s
    pure (.null, scope)
  | parameters => return (.list (← s.parameters), scope)
  | query =>
    let c ← s.query
    pure (.null, { scope with cursor? := some c })
  | update => return (.int (← s.runUpdate), scope)
  | batch => return (ofCounts (← s.runBatch), scope)

def Projection.apply : Projection → Row → Action Value
  | values, r => pure (.list r.toList)
  | map, r => ofEntries <$> ofExcept r.toMap
  | column i, r => ofExcept (r.get i)

def CursorStep.run (scope : Scope) (step : CursorStep) : Action (Value × Scope) := do
  let c ← scope.cursor
  match step with
  | next => return (.bool (← c.next), scope)
  | rowCount => return (.int (← c.rowCount), scope)
  | scrolls => return (.bool (← c.scrolls), scope)
  | get i => return (← c.get i, scope)
  | goTo position => return (.bool (← c.goTo position), scope)
  | close =>
    c.close
    pure (.null, scope)
  | row =>
    let r ← c.row
    pure (.list r.values, { scope with row? := some r })
  | columns => pure (ofColumns c.columns, scope)
  | move offset => return (.bool (← c.moveTo offset), scope)
  | convert projection offset limit =>
    return (.list (← c.convert projection.apply offset limit), scope)

def RowStep.run (scope : Scope) (step : RowStep) : Action (Value × Scope) := do
  let r ← scope.row
  match step with
  | get i => return (← ofExcept (r.get i), scope)
  | size => pure (.int r.size, scope)
  | map => return (ofEntries (← ofExcept r.toMap), scope)
  | values => pure (.list r.toList, scope)

def SessionStep.run (scope : Scope) : SessionStep → Action (Value × Scope)
  | new => do
    let s ← Session.new scope.source
    pure (.null, { scope with session := s })
  | isActive => return (.bool (← scope.session.isActive), scope)
  | close => do
    scope.session.close
    pure (.null, scope)
  | report => return (ofPairs (← scope.session.report), scope)

def noted {α : Type} (path : Path) (valueOf : α → Value) (a : Action α) : Action α := do
  match ← outcome a with
  | .ok r =>
    note (.finished path (valueOf r))
    pure r
  | .error f =>
    note (.failed path f)
    throw f

abbrev Callee := Scope → Action Value

def onRow (path : Path) (scope : Scope) (callee : Callee) (r : Row) : Action Unit := do
  note (.row path r.values)
  let _ ← callee { scope with row? := some r }

def onCursor (path : Path) (scope : Scope) (callee : Callee) (c : RowCursor) : Action Unit := do
  note (.entered path none)
  let _ ← callee { scope with cursor? := some c }

def onConnection (path : Path) (scope : Scope) (callee : Callee) (c : Connection) :
    Action Value := do
  note (.entered path (some c))
  callee { scope with connection? := some c }

mutual

def Step.run (path : Path) (scope : Scope) : Step → Action (Value × Scope)
  | .source step => step.run scope
  | .connection step => step.run scope
  | .statement step => step.run scope
  | .cursor step => step.run scope
  | .row step => step.run scope
  | .session step => step.run scope
  | .fail fault => throw fault.raised
  | .block body => return (← body.run path 0 scope, scope)
  | .wrapping kind message body =>
    return (← SqlScope.wrapping kind message (body.run path 0 scope), scope)
  | .releasing name what kind closeFault body =>
    return (← SqlScope.releasing (attempt (.closeResource name) closeFault) what kind
      (body.run path 0 scope), scope)
  | .closeAfterFailure name what closeFault => do
    SqlScope.closeAfterFailure (attempt (.closeResource name) closeFault) what
    pure (.null, scope)
  | .query sql parameters body => do
    let c ← scope.connection
    c.withResults sql (parameters.binder path scope)
      (onCursor path scope fun inner => body.run path 0 inner)
    pure (.null, scope)
  | .update sql parameters => do
    let c ← scope.connection
    return (.int (← c.runUpdate sql (parameters.binder path scope)), scope)
  | .transaction savepoint body => do
    let c ← scope.connection
    let v ← c.transact (onConnection path scope fun inner => body.run path 0 inner) savepoint
    pure (v, scope)
  | .openBound sql parameters => do
    let c ← scope.connection
    let s ← Statement.openBound c sql (parameters.binder path scope)
    pure (.null, { scope with statement? := some s })
  | .usingStatement body => do
    let s ← scope.statement
    return (← ensuring s.close (body.run path 0 scope), scope)
  | .usingCursor body => do
    let c ← scope.cursor
    return (← ensuring c.close (body.run path 0 scope), scope)
  | .eachRow body => do
    let c ← scope.cursor
    c.each (onRow path scope fun inner => body.run path 0 inner)
    pure (.null, scope)
  | .walk offset maxRows body => do
    let c ← scope.cursor
    let _ ← c.walk offset maxRows (onRow path scope fun inner => body.run path 0 inner)
    pure (.null, scope)
  | .allRows body => do
    let c ← scope.cursor
    c.each (onRow path scope fun inner => body.run path 0 inner)
    pure (.null, scope)
  | .firstRowOnly body => do
    let c ← scope.cursor
    let _ ← c.firstOnly (onRow path scope fun inner => body.run path 0 inner)
    pure (.null, scope)
  | .duringSession body => do
    let v ← Session.during scope.source fun s => body.run path 0 { scope with session := s }
    pure (v, scope)
  | .usingSession body =>
    return (← ensuring scope.session.close (body.run path 0 scope), scope)
  | .holding body => do
    let v ← scope.session.holding
      (onConnection path scope fun inner => body.run path 0 inner)
    pure (v, scope)
  | .sessionTransaction savepoint body => do
    let v ← scope.session.transact
      (onConnection path scope fun inner => body.run path 0 inner) savepoint
    pure (v, scope)
  | .sessionQuery sql parameters body => do
    scope.session.withResults sql (parameters.binder path scope)
      (onCursor path scope fun inner => body.run path 0 inner)
    pure (.null, scope)
  | .sessionUpdate sql parameters consumer => do
    let n ← scope.session.runUpdate sql (parameters.binder path scope) fun n =>
      consumer.run path (.counted path (.int n)) scope
    pure (.int n, scope)
  | .sessionBatch sql given consumer => do
    let ns ← scope.session.runBatch sql given fun ns =>
      consumer.run path (.counted path (ofCounts ns)) scope
    pure (ofCounts ns, scope)
  | .scan sql parameters offset maxRows columns row => do
    scope.session.scan sql (parameters.binder path scope)
      (fun cs => columns.run path (.columns path cs) scope) offset maxRows
      (fun r => row.run path (.row path r.values) { scope with row? := some r })
    pure (.null, scope)
  | .records sql parameters offset maxRows => do
    let found ← scope.session.records sql (parameters.binder path scope) offset maxRows
    pure (.list (found.map ofEntries), scope)
  | .firstRecord sql parameters => do
    let found ← scope.session.firstRecord sql (parameters.binder path scope)
    pure ((found.map ofEntries).getD .null, scope)

def Parameters.binder (path : Path) (scope : Scope) : Parameters → Binder
  | .given given => Binder.ofGiven given
  | .steps body => fun s => do
    let _ ← body.run path 0 { scope with statement? := some s }

def Callback.run (path : Path) (event : Event) (scope : Scope) : Callback → Action Unit
  | .absent => pure ()
  | .runs body => do
    note event
    let _ ← body.run path 0 scope

def Body.run (path : Path) (i : Nat) (scope : Scope) : Body → Action Value
  | .done result => pure result
  | .next handler step rest => do
    match ← outcome (noted (path ++ [i]) Prod.fst (step.run (path ++ [i]) scope)) with
    | .ok (_, scope) => rest.run path (i + 1) scope
    | .error f => if handler.stops f then rest.run path (i + 1) scope else throw f

end

-- A source that cannot be made ends the run before its first step.
def Program.run (p : Program) : Action Unit := do
  match ← outcome p.source.open with
  | .error f => note (.sourceFailed f)
  | .ok source =>
    let session ← Session.new source
    let _ ← p.body.run [] 0 ⟨source, session, none, none, none, none⟩

def Program.events (p : Program) (w : World) : List Event :=
  match p.run w with
  | .ok _ w => w.events
  | .error _ w => w.events

end SqlScope.Client
