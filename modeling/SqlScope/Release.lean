import SqlScope.World

set_option autoImplicit false

namespace SqlScope

open SqlScope.Action

variable {α : Type}

def onOrdinary (a : Action α) (recover : Failure → Action α) : Action α := do
  match ← outcome a with
  | .ok v => pure v
  | .error f => if f.isOrdinary then recover f else throw f

def wrapping (kind : Kind) (message : String) (a : Action α) : Action α :=
  onOrdinary a fun f => throw (if f.isLayer then f else f.wrap kind message)

def closeAfterFailure (close : Action Unit) (what : String) : Action Unit :=
  onOrdinary close fun f =>
    warn .resources ("Failed to close " ++ what ++ " while unwinding: " ++ f.text)

-- Closes a resource after `body`: quietly if `body` failed.
def releasing (close : Action Unit) (what : String) (kind : Kind) (body : Action α) :
    Action α := do
  match ← outcome body with
  | .error f =>
    closeAfterFailure close what
    throw f
  | .ok v =>
    wrapping kind ("Failed to close " ++ what) close
    pure v

-- Closes after `body`; a failing close takes the place of a failing `body`.
def ensuring (close : Action Unit) (body : Action α) : Action α := do
  match ← outcome body with
  | .error f =>
    close
    throw f
  | .ok v =>
    close
    pure v

end SqlScope
