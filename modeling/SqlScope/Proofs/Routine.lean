import SqlScope.Proofs.Stepwise

set_option autoImplicit false

namespace SqlScope

open SqlScope.Action

inductive Party where
  | layer
  | client

-- An act of the client is any action at all; `caught` is a client that goes on after a failure.
inductive Routine : Type → Type 1 where
  | act {α : Type} (party : Party) (a : Action α) : Routine α
  | next {α β : Type} (x : Routine α) (k : α → Routine β) : Routine β
  | caught {α : Type} (x : Routine α) : Routine (Except Failure α)
  | holding {α : Type} (op : Connection → Routine α) : Routine α
  | transact {α : Type} (op : Connection → Routine α) (savepoint : Value) : Routine α
  | write {α : Type} (body : Connection → Routine α) : Routine α
  | close : Routine Unit

namespace Routine

variable {α : Type}

def run (s : Session) {α : Type} : Routine α → Action α
  | act _ a => a
  | next x k => x.run s >>= fun v => (k v).run s
  | caught x => outcome (x.run s)
  | holding op => s.holding fun c => (op c).run s
  | transact op savepoint => s.transact (fun c => (op c).run s) savepoint
  | write body => s.write fun c => (body c).run s
  | close => s.close

instance : Stepwise Routine where
  step a := act .layer a
  next x k := next x k
  closing c x := next (caught x) fun
    | .ok v => act .layer (pure v)
    | .error e => next (act .layer (closeAfterFailure c.close c.label)) fun _ => act .layer (throw e)

theorem runs (s : Session) : Stepwise.Runs Routine (run s) where
  step _ := rfl
  next _ _ := rfl
  closing c x := by
    refine congrArg (outcome (x.run s) >>= ·) (funext fun r => ?_)
    cases r with
    | ok v => rfl
    | error e => rfl

def step (a : Action α) : Routine α := Stepwise.step a

def done (v : α) : Routine α := Stepwise.done v

def query (sql : String) (bind : Statement → Routine Unit) (consumer : RowCursor → Routine α) : Routine α :=
  holding fun c => Stepwise.withResults c sql bind consumer

def update (sql : String) (bind : Statement → Routine Unit) (consumer : Int → Routine Unit) : Routine Int :=
  next (write fun c => Stepwise.withStatement c sql bind fun t => step t.runUpdate) fun count =>
    next (consumer count) fun _ => done count

def batch (sql : String) (given : Option (List Given)) (consumer : List Int → Routine Unit) :
    Routine (List Int) :=
  next (write fun c => Stepwise.withStatement c sql (fun t => step (Binder.ofBatch given t)) fun t =>
      step t.runBatch) fun counts =>
    next (consumer counts) fun _ => done counts

def page (sql : String) (bind : Statement → Routine Unit) (columns : List Column → Routine Unit)
    (offset maxRows : Int) (f : Row → Routine α) : Routine (List α) :=
  holding fun c => Stepwise.page c sql bind columns offset maxRows f

def scan (sql : String) (bind : Statement → Routine Unit) (columns : List Column → Routine Unit)
    (offset maxRows : Int) (f : Row → Routine Unit) : Routine Unit :=
  next (page sql bind columns offset maxRows f) fun _ => done ()

def records (sql : String) (bind : Statement → Routine Unit) (offset maxRows : Int) :
    Routine (List (Entries Label Value)) :=
  page sql bind (fun _ => done ()) offset maxRows fun row => step (ofExcept row.toMap)

def firstRecord (sql : String) (bind : Statement → Routine Unit) : Routine (Option (Entries Label Value)) :=
  next (records sql bind 0 1) fun found => done found.head?

def report : Routine (Entries String Value) := holding fun c => step c.report

section

variable (s : Session)

theorem run_query (sql : String) (bind : Statement → Routine Unit) (consumer : RowCursor → Routine α) :
    (query sql bind consumer).run s =
      s.withResults sql (fun t => (bind t).run s) fun r => (consumer r).run s :=
  congrArg s.holding (funext fun c => (runs s).with_results c sql bind consumer)

theorem run_update (sql : String) (bind : Statement → Routine Unit) (consumer : Int → Routine Unit) :
    (update sql bind consumer).run s =
      s.runUpdate sql (fun t => (bind t).run s) fun count => (consumer count).run s := by
  refine congrArg (· >>= fun count => (consumer count).run s >>= fun _ => pure count) ?_
  exact congrArg s.write (funext fun c => (runs s).with_statement c sql bind fun t => step t.runUpdate)

theorem run_batch (sql : String) (given : Option (List Given)) (consumer : List Int → Routine Unit) :
    (batch sql given consumer).run s =
      s.runBatch sql given fun counts => (consumer counts).run s := by
  refine congrArg (· >>= fun counts => (consumer counts).run s >>= fun _ => pure counts) ?_
  exact congrArg s.write (funext fun c => (runs s).with_statement c sql _ fun t => step t.runBatch)

theorem run_page (sql : String) (bind : Statement → Routine Unit) (columns : List Column → Routine Unit)
    (offset maxRows : Int) (f : Row → Routine α) :
    (page sql bind columns offset maxRows f).run s =
      s.page sql (fun t => (bind t).run s) (fun cs => (columns cs).run s) offset maxRows
        fun row => (f row).run s := by
  rw [Session.page_eq_with_results]
  exact congrArg s.holding (funext fun c => (runs s).page c sql bind columns offset maxRows f)

theorem run_scan (sql : String) (bind : Statement → Routine Unit) (columns : List Column → Routine Unit)
    (offset maxRows : Int) (f : Row → Routine Unit) :
    (scan sql bind columns offset maxRows f).run s =
      s.scan sql (fun t => (bind t).run s) (fun cs => (columns cs).run s) offset maxRows
        fun row => (f row).run s :=
  congrArg (· >>= fun _ => pure ()) (run_page s sql bind columns offset maxRows f)

theorem run_records (sql : String) (bind : Statement → Routine Unit) (offset maxRows : Int) :
    (records sql bind offset maxRows).run s = s.records sql (fun t => (bind t).run s) offset maxRows :=
  run_page s sql bind _ offset maxRows _

theorem run_first_record (sql : String) (bind : Statement → Routine Unit) :
    (firstRecord sql bind).run s = s.firstRecord sql fun t => (bind t).run s := by
  change (records sql bind 0 1).run s >>= _ = _
  rw [run_records]
  rfl

theorem run_report : report.run s = s.report := rfl

end

end Routine

end SqlScope
