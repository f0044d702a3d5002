import SqlScope.Entries
import SqlScope.Failure

set_option autoImplicit false

namespace SqlScope

inductive Label where
  | null
  | bool (b : Bool)
  | int (n : Int)
  | text (s : String)
deriving DecidableEq

namespace Label

def value : Label → Value
  | null => .null
  | bool b => .bool b
  | int n => .int n
  | text s => .text s

def ofValue : Value → Except Fault Label
  | .null => .ok null
  | .bool b => .ok (bool b)
  | .int n => .ok (int n)
  | .text s => .ok (text s)
  | v => .error (Kind.type.fault ("unhashable type: '" ++ v.typeName ++ "'"))

def canonical : Label → Label
  | bool b => int b.toInt
  | l => l

instance : BEq Label := ⟨fun a b => decide (a.canonical = b.canonical)⟩

theorem beq_iff {a b : Label} : (a == b) = true ↔ a.canonical = b.canonical :=
  decide_eq_true_iff

instance : EquivBEq Label where
  rfl := beq_iff.2 rfl
  symm h := beq_iff.2 (beq_iff.1 h).symm
  trans h k := beq_iff.2 ((beq_iff.1 h).trans (beq_iff.1 k))

end Label

end SqlScope
