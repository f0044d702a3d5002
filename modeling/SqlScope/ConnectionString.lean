import SqlScope.Text.Blank

set_option autoImplicit false

namespace SqlScope.ConnectionString

def keyword : List Char := "password=".toList

def beginsSecret (cs : List Char) : Bool :=
  keyword.isPrefixOf cs &&
    match cs.drop keyword.length with
    | [] => false
    | c :: _ => !Text.isBlank c

-- Drops what is left of a value that the stars stand for, while `inside` one.
def hide (inside : Bool) : List Char → List Char
  | [] => []
  | c :: cs =>
    if inside then
      if Text.isBlank c then c :: hide false cs else hide true cs
    else if beginsSecret (c :: cs) then keyword ++ ['*', '*', '*'] ++ hide true cs
    else c :: hide false cs

def hidePassword (s : String) : String := String.ofList (hide false s.toList)

end SqlScope.ConnectionString
