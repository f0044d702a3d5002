import SqlScope.Driver
import SqlScope.Proofs.Law

set_option autoImplicit false

namespace SqlScope

open SqlScope.Action

variable {α : Type} {u v w w' : World}

structure Resource where
  close : Action Unit
  what : String
  kind : Kind
  ordinary : ∀ w f w', close w = .error f w' → f.isOrdinary = true

namespace Resource

def around : List Resource → Action α → Action α
  | [], body => body
  | r :: inner, body => releasing r.close r.what r.kind (around inner body)

def warning (r : Resource) (f : Failure) : Event :=
  .log .resources .warning ("Failed to close " ++ r.what ++ " while unwinding: " ++ f.text)

def surfaces (r : Resource) (f : Failure) : Failure :=
  if f.isLayer then f else f.wrap r.kind ("Failed to close " ++ r.what)

inductive Closes : List Resource → World → List (Option Failure) → World → Prop where
  | nil {u : World} : Closes [] u [] u
  | closed {r : Resource} {rest : List Resource} {failures : List (Option Failure)} {u v w : World}
      (ran : r.close u = .ok () v) (more : Closes rest v failures w) : Closes (r :: rest) u (none :: failures) w
  | failed {r : Resource} {rest : List Resource} {failures : List (Option Failure)} {f : Failure} {u v w : World}
      (ran : r.close u = .error f v)
      (more : Closes rest { v with history := r.warning f :: v.history } failures w) :
      Closes (r :: rest) u (some f :: failures) w

-- How scopes around a body end, from how the body ended: its failure gets out; or its value, if no close fails; or the
-- failure of the innermost close that fails, with the resources inside it closed before and those around it after.
inductive Leaves (rs : List Resource) : EStateM.Result Failure World α → EStateM.Result Failure World α → Prop where
  | raised {e : Failure} {failures : List (Option Failure)} {u w : World} (closes : Closes rs.reverse u failures w) :
      Leaves rs (.error e u) (.error e w)
  | returned {a : α} {failures : List (Option Failure)} {u w : World} (closes : Closes rs.reverse u failures w)
      (clean : ∀ failed ∈ failures, failed = none) : Leaves rs (.ok a u) (.ok a w)
  | unclosed {a : α} {outer inner : List Resource} {r : Resource} {failures later : List (Option Failure)} {f : Failure}
      {u v v' w : World} (split : rs = outer ++ r :: inner) (closes : Closes inner.reverse u failures v)
      (clean : ∀ failed ∈ failures, failed = none) (fails : r.close v = .error f v')
      (unwinds : Closes outer.reverse v' later w) : Leaves rs (.ok a u) (.error (r.surfaces f) w)

def scripted (name what : String) (kind : Kind) (fault : Option Fault)
    (ordinary : ∀ g, fault = some g → g.kind.isOrdinary = true) : Resource where
  close := attempt (.closeResource name) fault
  what := what
  kind := kind
  ordinary w f w' ran := by
    cases fault with
    | none => cases ran
    | some g =>
        cases ran
        exact ordinary g rfl

end Resource

end SqlScope
