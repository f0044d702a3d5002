import SqlScope.Text.Upper
import SqlScope.Value.Literal

set_option autoImplicit false

namespace SqlScope.Logging

inductive Level where
  | number (n : Int)
  | flag (b : Bool)
deriving DecidableEq

def levelNames : List (Int × String) :=
  [(10, "DEBUG"), (20, "INFO"), (30, "WARNING"), (40, "ERROR"), (50, "CRITICAL")]

-- Names that can be asked for but are not written.
def otherNames : List (String × Int) := [("WARN", 30), ("FATAL", 50), ("NOTSET", 0)]

namespace Level

def rank : Level → Int
  | number n => n
  | flag b => b.toInt

def name : Level → String
  | number n => (levelNames.lookup n).getD ("Level " ++ toString n)
  | flag b => "Level " ++ (Value.bool b).literal

def named? (name : String) : Option Level :=
  (((levelNames.map fun p => (p.2, p.1)) ++ otherNames).lookup name).map number

end Level

inductive LevelProblem where
  | unknown (name : String)
  | notALevel (v : Value)

def LevelProblem.message : LevelProblem → String
  | unknown name => "Unknown level: " ++ Text.quoted name
  | notALevel v => "Level not an integer or a valid string: " ++ v.literal

def environmentLevel (setting? : Option String) : String := Text.upper (setting?.getD "INFO")

def Level.ofName (name : String) : Except LevelProblem Level :=
  match Level.named? name with
  | some level => .ok level
  | none => .error (.unknown name)

-- The level that a value asks for; nothing asks for the level of the environment.
def Level.ofValue (setting? : Option String) : Value → Except LevelProblem Level
  | .null => Level.ofName (environmentLevel setting?)
  | .bool b => .ok (.flag b)
  | .int n => .ok (.number n)
  | .text s => Level.ofName s
  | v => .error (.notALevel v)

end SqlScope.Logging
