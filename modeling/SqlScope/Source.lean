import SqlScope.Connection
import SqlScope.Release
import SqlScope.Settings

set_option autoImplicit false

namespace SqlScope

open SqlScope.Action

inductive Source where
  | plain
  | pool
  | settings (s : Settings)

namespace Source

def taken : List String := ["cls", "dsn"]

def bounds : List String := ["minconn", "maxconn"]

-- The least and the most number of connections may be `given`; all else is for the pool.
def openPool (dsn : String) (given : Entries String Value) : Action Source := do
  match given.keys.find? taken.contains with
  | some name =>
    throw (Kind.type.failure
      ("PooledConnectionSource.from_dsn() got multiple values for argument '" ++ name ++ "'"))
  | none =>
    let least := (given.get? "minconn").getD (.int 1)
    let most := (given.get? "maxconn").getD (.int 10)
    let options := given.filter fun p => !bounds.contains p.1
    let due := (← get).pool.newFault
    onOrdinary (attempt (.newPool least most dsn options) due) fun f =>
      throw (f.wrap .connectionSource "Cannot create connection pool")
    pure .pool

def borrow : Action Connection := do
  let raw ← onOrdinary Pool.borrow fun f =>
    throw (f.wrap .connectionSource "Cannot get connection from pool")
  debug .connection "Took connection from pool"
  pure (.pooled ⟨← fresh, raw⟩)

def connect (s : Settings) : Action Connection := do
  if s.url.isTruthy then
    let options ← ofExcept s.options
    let raw ← onOrdinary
      (do
        let arguments ← ofExcept (s.arguments options)
        openNext (.connect s.url arguments))
      fun f => throw (f.wrap .connectionSource ("Cannot connect to " ++ s.url.plain))
    debug .connection ("Opened connection to " ++ s.url.plain)
    pure (.direct raw)
  else
    throw (Kind.connectionSource.failure
      ("Cannot create connection from settings " ++ s.hidden.literal))

def create : Source → Action Connection
  | plain => return .direct (← openNext .create)
  | pool => borrow
  | settings s => connect s

end Source

end SqlScope
