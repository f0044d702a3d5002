import SqlScope.Proofs.Batch
import Mathlib.Data.List.Induction

set_option autoImplicit false

namespace SqlScope

open SqlScope.Action

variable {α β : Type} {t : Statement} {w w' : World}

inductive Binding where
  | set (i : Int) (v : Value)
  | clear

namespace Binding

def run (t : Statement) : Binding → Action Unit
  | set i v => t.set i v
  | clear => t.clear

def answer : Binding → Except Failure Unit
  | set i _ =>
    if i < 1 then .error (Kind.value.failure ("Parameter index must be >= 1, got " ++ toString i)) else .ok ()
  | clear => .ok ()

def write (es : Entries Nat Value) : Binding → Entries Nat Value
  | set i v => if i < 1 then es else es.insert i.toNat v
  | clear => []

end Binding

namespace Placeholders

variable {es : Entries Nat Value}

def Gap (bound : Nat → Option Value) (i : Nat) : Prop :=
  1 ≤ i ∧ bound i = none ∧ ∃ j, i < j ∧ (bound j).isSome = true

end Placeholders

def silent : Law where
  inv _ := True
  rel := Adds []
  refl _ := adds_same rfl
  trans _ _ _ := adds_trans

namespace Statement

end Statement

end SqlScope
