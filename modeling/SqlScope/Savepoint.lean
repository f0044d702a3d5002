import SqlScope.World

set_option autoImplicit false

namespace SqlScope.Savepoint

def isStart (c : Char) : Bool := c.isAlpha || c == '_'
def isPart (c : Char) : Bool := c.isAlphanum || c == '_'

def isWord : List Char → Bool
  | [] => false
  | c :: cs => isStart c && cs.all isPart

def chomp : List Char → List Char
  | [] => []
  | ['\n'] => []
  | c :: cs => c :: chomp cs

def isName (s : String) : Bool := isWord (chomp s.toList)

-- A fixed sequence stands for random digits: twelve hexadecimal ones, different for each of the first 2^48
-- numbers. Results that hold for every number hold for whatever digits are drawn.
def anonymous (n : Nat) : String :=
  String.ofList ('s' :: 'p' :: '_' ::
    Text.hex 12 ((n * 0x9e3779b97f4b + 0x5deece66d1a7) % 0x1000000000000))

def request : Value → Action (Option String)
  | .null | .bool false | .int 0 => pure none
  | .bool true => do
    let w ← get
    set { w with savepoints := w.savepoints + 1 }
    pure (some (anonymous w.savepoints))
  | .text s => if isName s then pure (some s) else refuse (.text s)
  | v => refuse v
where
  refuse (v : Value) : Action (Option String) :=
    throw (Kind.value.failure ("Invalid savepoint name: " ++ v.literal))

end SqlScope.Savepoint
