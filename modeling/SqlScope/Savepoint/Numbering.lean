import SqlScope.Savepoint
import SqlScope.Text.Word

/-!
Short names for anonymous savepoints. Where such a name stands in a text as a word of its own, the
number of its first appearance takes the place of its digits.
-/
set_option autoImplicit false

namespace SqlScope.Savepoint

def isHexDigit (c : Char) : Bool := c.isDigit || ('a' ≤ c && c ≤ 'f')

def digitsAt? : List Char → Option String
  | 's' :: 'p' :: '_' :: rest =>
    let digits := rest.take 12
    let after := rest.drop 12
    if digits.length == 12 && digits.all isHexDigit && !after.head?.any Text.isWordPart then
      some (String.ofList digits)
    else none
  | _ => none

def shortName (i : Nat) : List Char := ("sp_#" ++ toString (i + 1)).toList

-- Goes on after `skip` characters of a name. `inWord` tells whether a word goes on here, `seen`
-- holds the digits of the names so far.
def number (seen : List String) (inWord : Bool) : Nat → List Char → List String × List Char
  | _, [] => (seen, [])
  | skip + 1, _ :: cs => number seen true skip cs
  | 0, c :: cs =>
    match if inWord then none else digitsAt? (c :: cs) with
    | some digits =>
      let seen := if seen.contains digits then seen else seen ++ [digits]
      let (all, rest) := number seen true 14 cs
      (all, shortName (seen.idxOf digits) ++ rest)
    | none =>
      let (all, rest) := number seen (Text.isWordPart c) 0 cs
      (all, c :: rest)

end SqlScope.Savepoint
