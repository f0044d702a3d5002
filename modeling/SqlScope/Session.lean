import SqlScope.Source

/-!
Sessions: one connection, bound when it is first needed. The operation that bound it closes it on
the way out; operations inside share it. A binding whose connection reads as closed is replaced.
-/
set_option autoImplicit false

namespace SqlScope

open SqlScope.Action

variable {α : Type}

structure Session where
  index : Nat
  source : Source

namespace Session

def new (source : Source) : Action Session := return ⟨← fresh, source⟩

def state (s : Session) : Action SessionState := do
  return (← get).sessions.get s.index

def update (s : Session) (f : SessionState → SessionState) : Action Unit :=
  modify fun w => { w with sessions := w.sessions.put s.index (f (w.sessions.get s.index)) }

-- The bound connection, if it reads as open. A failing read counts as closed.
def active? (s : Session) : Action (Option Connection) := do
  match (← s.state).binding with
  | none => pure none
  | some c =>
    onOrdinary
      (do
        let closed ← c.readOr "closed" (.bool false)
        pure (if closed.isTruthy then none else some c))
      fun f => do
        debug .session ("Connection state probe failed, treating as closed: " ++ f.text)
        pure none

def isActive (s : Session) : Action Bool := do
  return (← s.active?).isSome

def discard (s : Session) : Action Unit := do
  if (← s.state).binding.isSome then
    debug .session "Discarding closed connection"
    s.update fun t => { t with binding := none }
  else pure ()

def acquire (s : Session) : Action Connection := do
  s.discard
  let c ← s.source.create
  s.update fun t => { t with binding := some c }
  debug .session "Bound new connection"
  pure c

def letGo (s : Session) (c : Connection) : Action Bool := do
  if (← s.state).binding = some c then
    s.update fun t => { t with binding := none }
    pure true
  else pure false

def closeConnection (c : Connection) : Action Unit :=
  wrapping .connectionSource "Failed to close connection" c.close

def release (s : Session) (c : Connection) : Action Unit := do
  if ← s.letGo c then
    closeConnection c
    debug .session "Released connection"
  else pure ()

def releaseAfterFailure (s : Session) (c : Connection) : Action Unit := do
  if ← s.letGo c then closeAfterFailure c.close "connection" else pure ()

-- Runs `body` on the bound connection. A connection bound here is closed here, unless `body` has
-- dropped it.
def holding (s : Session) (body : Connection → Action α) : Action α := do
  match ← s.active? with
  | some c => body c
  | none =>
    let c ← s.acquire
    match ← outcome (body c) with
    | .error f =>
      s.releaseAfterFailure c
      throw f
    | .ok v =>
      s.release c
      pure v

def close (s : Session) : Action Unit := do
  match (← s.state).binding with
  | none => pure ()
  | some c =>
    let _ ← s.letGo c
    closeConnection c
    debug .session "Session closed"

def during (source : Source) (body : Session → Action α) : Action α := do
  let s ← new source
  ensuring s.close (body s)

end Session

end SqlScope
