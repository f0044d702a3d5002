import SqlScope.Connection
import SqlScope.ConnectionString

set_option autoImplicit false

namespace SqlScope.Connection

open SqlScope.Action

def topLevel (home : String) : String :=
  String.ofList (home.toList.takeWhile (· != '.'))

-- The driver is named for the home of the raw connection. A connection may show a plain value in
-- its place, and plain values have a home of their own.
def driver : Connection → Action String
  | pooled p => do
    match ← p.held with
    | .lent c => return topLevel (← c.state).home
    | .value _ => pure "builtins"
  | direct c => do
    match ← orMissing (some <$> c.read "raw_connection") none with
    | some _ => pure "builtins"
    | none => return topLevel (← c.state).home

def dsn (c : Connection) : Action (Entries String Value) := do
  match ← c.readOr "dsn" .null with
  | .text s => pure [("dsn", .text (ConnectionString.hidePassword s))]
  | _ => pure []

def present (c : Connection) : List String → Action (Entries String Value)
  | [] => pure []
  | name :: rest => do
    let v ← c.readOr name .null
    let more ← c.present rest
    pure (if v.isNull then more else (name, v) :: more)

def report (c : Connection) : Action (Entries String Value) := do
  let driver ← c.driver
  let autocommit ← c.readOr "autocommit" .null
  let closed ← c.readOr "closed" (.bool false)
  let dsn ← c.dsn
  let more ← c.present ["server_version", "isolation_level", "encoding", "in_transaction"]
  pure ([("driver", .text driver), ("autocommit", autocommit), ("closed", .bool closed.isTruthy)]
    ++ dsn ++ more)

end SqlScope.Connection
