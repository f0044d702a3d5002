import SqlScope.Session.Work
import SqlScope.Paging
import SqlScope.Connection.Report

set_option autoImplicit false

namespace SqlScope.Session

open SqlScope.Action

variable {α : Type}

def page (s : Session) (sql : String) (bind : Binder) (columns : List Column → Action Unit)
    (offset maxRows : Int) (f : Row → Action α) : Action (List α) :=
  s.holding fun c => do
    let t ← Statement.openBound c sql bind
    releasing t.close "statement" .execution do
      let r ← t.query
      releasing r.close "result cursor" .execution do
        columns r.columns
        r.walk offset maxRows f

theorem page_eq_with_results (s : Session) (sql : String) (bind : Binder) (columns : List Column → Action Unit)
    (offset maxRows : Int) (f : Row → Action α) :
    s.page sql bind columns offset maxRows f =
      s.withResults sql bind fun r => columns r.columns >>= fun _ => r.walk offset maxRows f := by
  rfl

def scan (s : Session) (sql : String) (bind : Binder) (columns : List Column → Action Unit)
    (offset maxRows : Int) (f : Row → Action Unit) : Action Unit := do
  let _ ← s.page sql bind columns offset maxRows f

def records (s : Session) (sql : String) (bind : Binder) (offset maxRows : Int) :
    Action (List (Entries Label Value)) :=
  s.page sql bind (fun _ => pure ()) offset maxRows fun r => ofExcept r.toMap

def firstRecord (s : Session) (sql : String) (bind : Binder) :
    Action (Option (Entries Label Value)) := do
  return (← s.records sql bind 0 1).head?

def report (s : Session) : Action (Entries String Value) :=
  s.holding Connection.report

end SqlScope.Session
