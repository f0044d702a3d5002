import SqlScope.Session.Reading

set_option autoImplicit false

namespace SqlScope

open SqlScope.Action

inductive Closable where
  | results (r : RowCursor)
  | statement (t : Statement)
  | cursor (q : RawCursor)

namespace Closable

def close : Closable → Action Unit
  | results r => r.close
  | statement t => t.close
  | cursor q => q.close

def label : Closable → String
  | results _ => "result cursor"
  | statement _ => "statement"
  | cursor _ => "cursor"

end Closable

-- Programs of steps, one after the other, with handlers that close something when a part fails.
class Stepwise (T : Type → Type 1) where
  step {α : Type} (a : Action α) : T α
  next {α β : Type} (x : T α) (k : α → T β) : T β
  closing {α : Type} (c : Closable) (x : T α) : T α

namespace Stepwise

variable {T : Type → Type 1} [Stepwise T] {α : Type}

def done (v : α) : T α := step (pure v)

def fail (e : Failure) : T α := step (throw e)

def releasing (c : Closable) (body : T α) : T α :=
  next (closing c body) fun v =>
    step do
      wrapping .execution ("Failed to close " ++ c.label) c.close
      pure v

def withStatement (c : Connection) (sql : String) (bind : Statement → T Unit) (body : Statement → T α) : T α :=
  next (step (Statement.on c sql)) fun t =>
    next (closing (.statement t) (bind t)) fun _ => releasing (.statement t) (body t)

def withResults (c : Connection) (sql : String) (bind : Statement → T Unit) (consumer : RowCursor → T α) : T α :=
  withStatement c sql bind fun t => next (step t.query) fun r => releasing (.results r) (consumer r)

def visit (r : RowCursor) (f : Row → T α) : Nat → Option Nat → T (List α)
  | _, some 0 => done []
  | 0, none => fail (Kind.abandoned.failure "too many rows visited")
  | 0, some (_ + 1) => fail (Kind.abandoned.failure "too many rows visited")
  | fuel + 1, limit =>
    next (step r.advance) fun
      | none => done []
      | some row =>
        next (f row) fun a => next (visit r f fuel (limit.map (· - 1))) fun rest => done (a :: rest)

def walk (r : RowCursor) (offset maxRows : Int) (f : Row → T α) : T (List α) :=
  next (step (r.moveTo offset)) fun found =>
    if found then next (step r.patience) fun fuel => visit r f fuel (RowCursor.limitOf maxRows)
    else done []

def page (c : Connection) (sql : String) (bind : Statement → T Unit) (columns : List Column → T Unit)
    (offset maxRows : Int) (f : Row → T α) : T (List α) :=
  withResults c sql bind fun r => next (columns r.columns) fun _ => walk r offset maxRows f

theorem visit_succ (r : RowCursor) (f : Row → T α) (fuel : Nat) {limit : Option Nat} (more : limit ≠ some 0) :
    visit r f (fuel + 1) limit = next (step r.advance) fun
      | none => done []
      | some row => next (f row) fun a => next (visit r f fuel (limit.map (· - 1))) fun rest => done (a :: rest) := by
  rcases limit with - | - | n
  · rfl
  · exact absurd rfl more
  · rfl

structure Closed (T : Type → Type 1) [Stepwise T] (P : {α : Type} → T α → Prop) : Prop where
  done {α : Type} (v : α) : P (done v)
  fail {α : Type} (e : Failure) : P (fail e : T α)
  next {α β : Type} (x : T α) (k : α → T β) (first : P x) (rest : ∀ v, P (k v)) : P (next x k)

section

variable {P : {α : Type} → T α → Prop} {r : RowCursor} {f : Row → T α}

theorem visit_closed (closed : Closed T P) (advances : P (step r.advance)) (visits : ∀ row, P (f row)) (fuel : Nat)
    (limit : Option Nat) : P (visit r f fuel limit) := by
  induction fuel generalizing limit with
  | zero =>
      rcases limit with - | - | n
      · exact closed.fail _
      · exact closed.done _
      · exact closed.fail _
  | succ fuel ih =>
      by_cases reached : limit = some 0
      · subst reached
        exact closed.done _
      · rw [visit_succ r f fuel reached]
        refine closed.next _ _ advances fun found => ?_
        cases found with
        | none => exact closed.done _
        | some row => exact closed.next _ _ (visits row) fun a => closed.next _ _ (ih _) fun vs => closed.done _

theorem walk_closed (closed : Closed T P) (offset maxRows : Int) (moves : P (step (r.moveTo offset)))
    (waits : P (step r.patience)) (advances : P (step r.advance)) (visits : ∀ row, P (f row)) :
    P (walk r offset maxRows f) := by
  refine closed.next _ _ moves fun found => ?_
  cases found with
  | true => exact closed.next _ _ waits fun fuel => visit_closed closed advances visits fuel _
  | false => exact closed.done _

end

-- A program runs step by step, and closes quietly on the way out of a failure.
structure Runs (T : Type → Type 1) [Stepwise T] (run : {α : Type} → T α → Action α) : Prop where
  step {α : Type} (a : Action α) : run (step a) = a
  next {α β : Type} (x : T α) (k : α → T β) : run (next x k) = run x >>= fun v => run (k v)
  closing {α : Type} (c : Closable) (x : T α) : run (closing c x) = (outcome (run x) >>= fun
    | .ok v => pure v
    | .error e => closeAfterFailure c.close c.label >>= fun _ => throw e)

namespace Runs

variable {run : {α : Type} → T α → Action α} (runs : Runs T run)

include runs

theorem guarded {β : Type} (c : Closable) (x : T α) (k : α → T β) :
    run (Stepwise.next (Stepwise.closing c x) k) = (outcome (run x) >>= fun
      | .ok v => run (k v)
      | .error e => closeAfterFailure c.close c.label >>= fun _ => throw e) := by
  rw [runs.next, runs.closing, bind_assoc]
  refine congrArg (outcome (run x) >>= ·) (funext fun r => ?_)
  cases r with
  | ok v => exact pure_bind v _
  | error e => exact bind_assoc _ _ _

theorem releasing (c : Closable) (body : T α) :
    run (releasing c body) = SqlScope.releasing c.close c.label .execution (run body) := by
  rw [Stepwise.releasing, runs.guarded]
  refine congrArg (outcome (run body) >>= ·) (funext fun r => ?_)
  cases r with
  | ok v => exact runs.step _
  | error e => rfl

theorem with_statement (c : Connection) (sql : String) (bind : Statement → T Unit) (body : Statement → T α) :
    run (withStatement c sql bind body) = c.withStatement sql (fun t => run (bind t)) fun t => run (body t) := by
  rw [withStatement, Connection.withStatement, Statement.openBound, bind_assoc, runs.next, runs.step]
  refine congrArg (Statement.on c sql >>= ·) (funext fun t => ?_)
  rw [runs.guarded, bind_assoc]
  refine congrArg (outcome (run (bind t)) >>= ·) (funext fun r => ?_)
  cases r with
  | ok v =>
      dsimp only
      rw [runs.releasing, pure_bind]
      rfl
  | error e =>
      dsimp only
      rw [bind_assoc]
      rfl

theorem with_results (c : Connection) (sql : String) (bind : Statement → T Unit) (consumer : RowCursor → T α) :
    run (withResults c sql bind consumer) =
      c.withResults sql (fun t => run (bind t)) fun r => run (consumer r) := by
  rw [withResults, runs.with_statement]
  refine congrArg (c.withStatement sql _) (funext fun t => ?_)
  rw [runs.next, runs.step]
  exact congrArg (t.query >>= ·) (funext fun r => runs.releasing _ _)

theorem visit (r : RowCursor) (f : Row → T α) (fuel : Nat) (limit : Option Nat) :
    run (visit r f fuel limit) = r.visit (fun row => run (f row)) fuel limit := by
  induction fuel generalizing limit with
  | zero =>
      rcases limit with - | - | n
      · exact runs.step _
      · exact runs.step _
      · exact runs.step _
  | succ fuel ih =>
      by_cases reached : limit = some 0
      · subst reached
        exact runs.step _
      · rw [visit_succ r f fuel reached, r.visit_succ _ fuel reached, runs.next, runs.step]
        refine congrArg (r.advance >>= ·) (funext fun found => ?_)
        cases found with
        | none => exact runs.step _
        | some row =>
            refine (runs.next _ _).trans (congrArg (run (f row) >>= ·) (funext fun a => ?_))
            refine (runs.next _ _).trans ?_
            rw [ih]
            exact congrArg (r.visit _ fuel _ >>= ·) (funext fun vs => runs.step _)

theorem walk (r : RowCursor) (offset maxRows : Int) (f : Row → T α) :
    run (walk r offset maxRows f) = r.walk offset maxRows fun row => run (f row) := by
  rw [Stepwise.walk, RowCursor.walk, runs.next, runs.step]
  refine congrArg (r.moveTo offset >>= ·) (funext fun found => ?_)
  cases found with
  | true =>
      refine (runs.next _ _).trans ?_
      rw [runs.step]
      exact congrArg (r.patience >>= ·) (funext fun fuel => runs.visit r f fuel _)
  | false => exact runs.step _

theorem page (c : Connection) (sql : String) (bind : Statement → T Unit) (columns : List Column → T Unit)
    (offset maxRows : Int) (f : Row → T α) :
    run (page c sql bind columns offset maxRows f) = c.withResults sql (fun t => run (bind t)) fun r =>
      run (columns r.columns) >>= fun _ => r.walk offset maxRows fun row => run (f row) := by
  rw [Stepwise.page, runs.with_results]
  refine congrArg (c.withResults sql _) (funext fun r => ?_)
  rw [runs.next]
  exact congrArg (run (columns r.columns) >>= ·) (funext fun _ => runs.walk r offset maxRows f)

end Runs

end Stepwise

end SqlScope
