import SqlScope.Value.Literal

set_option autoImplicit false

namespace SqlScope

inductive Kind where
  | layer | connectionSource | execution | transaction | nestedTransaction | positioning
  | driver | runtime | value | index | key | type | attribute | general | notInScope
  | interrupt | exit | abandoned
deriving DecidableEq

namespace Kind

def isLayer : Kind → Bool
  | layer | connectionSource | execution | transaction | nestedTransaction | positioning => true
  | _ => false

-- A request to stop is not ordinary: it is never wrapped, but clean-up runs for it.
def isOrdinary : Kind → Bool
  | interrupt | exit | abandoned => false
  | _ => true

def isBelow (k above : Kind) : Bool :=
  k == above ||
    match above with
    | layer => k.isLayer
    | transaction => k == nestedTransaction
    | general => k.isOrdinary
    | _ => false

end Kind

structure Fault where
  kind : Kind
  detail : Option Value

namespace Fault

def text (f : Fault) : String :=
  match f.detail with
  | none => ""
  | some v => if f.kind = .key then v.literal else v.plain

end Fault

def Kind.fault (k : Kind) (message : String) : Fault := ⟨k, some (.text message)⟩

structure Failure where
  fault : Fault
  causes : List Fault

namespace Failure

def kind (f : Failure) : Kind := f.fault.kind
def text (f : Failure) : String := f.fault.text
def isLayer (f : Failure) : Bool := f.kind.isLayer
def isOrdinary (f : Failure) : Bool := f.kind.isOrdinary

def wrap (f : Failure) (k : Kind) (message : String) : Failure :=
  ⟨k.fault (message ++ ": " ++ f.text), f.fault :: f.causes⟩

end Failure

def Fault.raised (f : Fault) : Failure := ⟨f, []⟩

def Kind.failure (k : Kind) (message : String) : Failure := (k.fault message).raised

def Failure.lacking (typeName name : String) : Failure :=
  Kind.attribute.failure ("'" ++ typeName ++ "' object has no attribute '" ++ name ++ "'")

theorem Kind.isOrdinary_of_isLayer {k : Kind} (h : k.isLayer) : k.isOrdinary := by
  cases k <;> simp_all [isLayer, isOrdinary]

end SqlScope
