import SqlScope.Row

set_option autoImplicit false

namespace SqlScope

structure RawConnection where
  index : Nat
deriving DecidableEq

structure RawCursor where
  connection : RawConnection
  index : Nat
deriving DecidableEq

structure Proxy where
  index : Nat
  raw : RawConnection
deriving DecidableEq

inductive Held where
  | lent (raw : RawConnection)
  | value (v : Value)

inductive Connection where
  | direct (raw : RawConnection)
  | pooled (proxy : Proxy)
deriving DecidableEq

inductive Call where
  | create
  | borrow
  | giveBack (held : Held)
  | closePool
  | newPool (least most : Value) (dsn : String) (options : Entries String Value)
  | connect (url : Value) (options : Entries String Value)
  | openCursor (c : RawConnection)
  | commit (c : RawConnection)
  | rollback (c : RawConnection)
  | close (c : RawConnection)
  | assign (c : RawConnection) (name : String) (value : Value)
  | execute (q : RawCursor) (sql : String) (parameters : Option (List Value))
  | fetch (q : RawCursor)
  | scroll (q : RawCursor) (position : Int)
  | closeCursor (q : RawCursor)
  | closeResource (name : String)

inductive Channel where
  | session | commands | connection | cursor | statement | resources
deriving DecidableEq

def Channel.name : Channel → String
  | session => "sqlsession.session"
  | commands => "sqlsession.commands"
  | connection => "sqlsession.connection"
  | cursor => "sqlsession.cursor"
  | statement => "sqlsession.statement"
  | resources => "sqlsession.resources"

inductive Severity where
  | debug | warning
deriving DecidableEq

-- Where a step stands: its number in the program, then in each body around it.
abbrev Path := List Nat

inductive Event where
  | call (call : Call) (fault : Option Fault)
  | log (channel : Channel) (severity : Severity) (text : String)
  | entered (path : Path) (connection : Option Connection)
  | row (path : Path) (values : List Value)
  | columns (path : Path) (columns : List Column)
  | counted (path : Path) (count : Value)
  | finished (path : Path) (value : Value)
  | failed (path : Path) (failure : Failure)
  | sourceFailed (failure : Failure)

end SqlScope
