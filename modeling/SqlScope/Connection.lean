import SqlScope.Driver

/-!
Connections as the layer holds them: a raw connection, or a proxy for one that a pool has lent. The
proxy passes everything on, but its close hands the raw connection back, once, and from then on it
reads as closed. A client may put plain values in the place of the raw connection and of the pool;
such a value takes no calls.
-/
set_option autoImplicit false

namespace SqlScope

open SqlScope.Action

-- A missing attribute reads as `fallback`; so does one whose reading says that it is missing.
def orMissing {α : Type} (read : Action α) (fallback : α) : Action α := do
  match ← outcome read with
  | .ok v => pure v
  | .error f => if f.kind = .attribute then pure fallback else throw f

def RawConnection.name (c : RawConnection) : String := "c" ++ toString (c.index + 1)

def RawCursor.name (q : RawCursor) : String := q.connection.name ++ "." ++ toString (q.index + 1)

-- Such names belong to the proxy itself.
def isOwn (name : String) : Bool := name.toList.head? == some '_'

namespace Held

def callee (name : String) : Held → Action RawConnection
  | lent c => pure c
  | value v => throw (Failure.lacking v.typeName name)

def read (h : Held) (name : String) : Action Value := do
  (← h.callee name).read name

def assign (h : Held) (name : String) (value : Value) (reading : Reading Value) :
    Action Unit := do
  (← h.callee name).assign name value reading

def shown : Held → Value
  | lent c => .text c.name
  | value v => v

end Held

namespace Proxy

def state (p : Proxy) : Action ProxyState := do
  return (← get).proxies.get p.index

def update (p : Proxy) (f : ProxyState → ProxyState) : Action Unit :=
  modify fun w => { w with proxies := w.proxies.put p.index (f (w.proxies.get p.index)) }

def held (p : Proxy) : Action Held := do
  return (((← p.state).attributes.get? "_connection").map Held.value).getD (.lent p.raw)

def closed (p : Proxy) : Action Value := do
  let released := (← p.state).released
  if released.isTruthy then pure released
  else return .bool (← orMissing ((← p.held).read "closed") (.bool false)).isTruthy

def read (p : Proxy) (name : String) : Action Value := do
  if name = "closed" then p.closed
  else if name = "raw_connection" ∨ name = "_connection" then return (← p.held).shown
  else if name = "_released" then return (← p.state).released
  else match (← p.state).attributes.get? name with
    | some v => pure v
    | none => (← p.held).read name

def assign (p : Proxy) (name : String) (value : Value) (reading : Reading Value) :
    Action Unit := do
  if name = "_released" then p.update fun s => { s with released := value }
  else if isOwn name then p.update fun s => { s with attributes := s.attributes.insert name value }
  else (← p.held).assign name value reading

def giveBack (p : Proxy) : Action Unit := do
  match (← p.state).attributes.get? "_pool" with
  | some v => throw (Failure.lacking v.typeName "putconn")
  | none => Pool.giveBack (← p.held)

-- The mark is set first, so that a refusing pool is not asked again.
def close (p : Proxy) : Action Unit := do
  if (← p.state).released.isTruthy then pure ()
  else
    p.update fun s => { s with released := .bool true }
    p.giveBack
    debug .connection "Returned connection to pool"

end Proxy

namespace Connection

def held : Connection → Action Held
  | direct c => pure (.lent c)
  | pooled p => p.held

def name : Connection → String
  | direct c => c.name
  | pooled p => "p:" ++ p.raw.name

def openCursor (c : Connection) : Action RawCursor := do
  (← (← c.held).callee "cursor").openCursor

def commit (c : Connection) : Action Unit := do
  (← (← c.held).callee "commit").commit

def rollback (c : Connection) : Action Unit := do
  (← (← c.held).callee "rollback").rollback

def close : Connection → Action Unit
  | direct c => c.close
  | pooled p => p.close

def read : Connection → String → Action Value
  | direct c, name => c.read name
  | pooled p, name => p.read name

def readOr (c : Connection) (name : String) (fallback : Value) : Action Value :=
  orMissing (c.read name) fallback

def assign : Connection → String → Value → Reading Value → Action Unit
  | direct c, name, value, reading => c.assign name value reading
  | pooled p, name, value, reading => p.assign name value reading

end Connection

end SqlScope
