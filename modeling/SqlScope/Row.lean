import SqlScope.Label

set_option autoImplicit false

namespace SqlScope

structure Column where
  label : Value
  name : Value
  typeCode : Value

inductive ColumnEntry where
  | full (name typeCode : Value)
  | short

-- A driver reports one name for a column, so that label and name coincide.
def ColumnEntry.column : ColumnEntry → Except Fault Column
  | .full name typeCode => .ok ⟨name, name, typeCode⟩
  | .short => .error (Kind.index.fault "tuple index out of range")

namespace Column

def ofEntries : List ColumnEntry → Except Fault (List Column)
  | [] => .ok []
  | entry :: rest =>
    match entry.column with
    | .error f => .error f
    | .ok c => (ofEntries rest).map (c :: ·)

def ofDescription (description : Option (List ColumnEntry)) : Except Fault (List Column) :=
  ofEntries (description.getD [])

end Column

structure Row where
  values : List Value
  columns : List Column

namespace Row

def size (r : Row) : Nat := r.values.length

-- Columns are counted from 1.
def get (r : Row) (i : Int) : Except Fault Value :=
  if i < 1 then .error (outside i)
  else match r.values[(i - 1).toNat]? with
    | some v => .ok v
    | none => .error (outside i)
where
  outside (i : Int) : Fault :=
    Kind.index.fault ("Column index " ++ toString i ++ " out of range 1.." ++ toString r.size)

def enter (es : Entries Label Value) (name label : Label) (v : Value) : Entries Label Value :=
  if label == name then es.insert name v else (es.insert name v).insert label v

def enterAll (es : Entries Label Value) : List (Column × Value) → Except Fault (Entries Label Value)
  | [] => .ok es
  | (c, v) :: rest =>
    match Label.ofValue c.name, Label.ofValue c.label with
    | .ok name, .ok label => enterAll (enter es name label v) rest
    | .error f, _ => .error f
    | _, .error f => .error f

def toMap (r : Row) : Except Fault (Entries Label Value) := enterAll [] (r.columns.zip r.values)

def toList (r : Row) : List Value := r.values

end Row

end SqlScope
