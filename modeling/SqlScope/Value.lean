set_option autoImplicit false

namespace SqlScope

inductive Value where
  | null
  | bool (b : Bool)
  | int (n : Int)
  | text (s : String)
  | list (items : List Value)
  | table (entries : List (String × Value))
deriving Inhabited

def Value.isTruthy : Value → Bool
  | null => false
  | bool b => b
  | int n => n != 0
  | text s => s != ""
  | list items => !items.isEmpty
  | table entries => !entries.isEmpty

def Value.isNull : Value → Bool
  | null => true
  | _ => false

-- What going through a value gives: the items of a list, the characters of a text, the keys of a
-- table.
def Value.items? : Value → Option (List Value)
  | list items => some items
  | text s => some (s.toList.map fun c => .text (String.ofList [c]))
  | table entries => some (entries.map fun p => .text p.1)
  | _ => none

end SqlScope
