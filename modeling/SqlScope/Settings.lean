import SqlScope.Label

/-!
Connection settings: `url`, `user` and `password` as a pair, and `options` for the connect function.
Options win over the pair, the pair over the bare url.
-/
set_option autoImplicit false

namespace SqlScope

abbrev Settings := Entries Label Value

abbrev Options := Entries Label Value

namespace Options

def listed (i : Nat) (v : Value) : Except Fault (Label × Value) :=
  match v.items? with
  | some [label, value] => (Label.ofValue label).map (·, value)
  | some items =>
    .error (Kind.value.fault ("dictionary update sequence element #" ++ toString i ++
      " has length " ++ toString items.length ++ "; 2 is required"))
  | none =>
    .error (Kind.type.fault ("cannot convert dictionary update sequence element #" ++ toString i ++
      " to a sequence"))

def listedFrom (i : Nat) : List Value → Except Fault (List (Label × Value))
  | [] => .ok []
  | v :: rest =>
    match listed i v with
    | .error f => .error f
    | .ok p => (listedFrom (i + 1) rest).map (p :: ·)

def ofValue : Value → Except Fault Options
  | .table es => .ok (es.map fun p => (.text p.1, p.2))
  | v =>
    match v.items? with
    | some items => (listedFrom 0 items).map Entries.ofPairs
    | none => .error (Kind.type.fault ("'" ++ v.typeName ++ "' object is not iterable"))

def keywords : Options → Except Fault (Entries String Value)
  | [] => .ok []
  | (.text name, v) :: rest => (keywords rest).map ((name, v) :: ·)
  | _ => .error (Kind.type.fault "keywords must be strings")

end Options

namespace Settings

def field (s : Settings) (name : String) : Value := (s.get? (.text name)).getD .null

def url (s : Settings) : Value := s.field "url"

def credentials (s : Settings) : Option (Value × Value) :=
  let user := s.field "user"
  let password := s.field "password"
  if user.isNull || password.isNull then none else some (user, password)

def options (s : Settings) : Except Fault (Option Options) :=
  match s.field "options" with
  | .null => .ok none
  | v => (Options.ofValue v).map some

def arguments (s : Settings) : Option Options → Except Fault (Entries String Value)
  | some options => options.keywords
  | none => .ok (match s.credentials with
    | some (user, password) => [("user", user), ("password", password)]
    | none => [])

def hidden (s : Settings) : Settings :=
  s.map fun p => (p.1, if p.1 == .text "password" then .text "***" else p.2)

def literal (s : Settings) : String :=
  "\x7b" ++ ", ".intercalate (s.map fun p => p.1.value.literal ++ ": " ++ p.2.literal) ++ "\x7d"

-- The settings that environment variables give; empty ones give none.
def ofEnvironment (environment : Entries String String) : Settings :=
  [("url", "DATABASE_URL"), ("user", "DATABASE_USER"), ("password", "DATABASE_PASSWORD")].filterMap
    fun p => match environment.get? p.2 with
      | none | some "" => none
      | some v => some (.text p.1, .text v)

end Settings

end SqlScope
