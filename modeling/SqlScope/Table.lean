set_option autoImplicit false

namespace SqlScope

structure Table (α : Type) where
  records : List α

namespace Table

variable {α : Type} [Inhabited α]

def empty : Table α := ⟨[]⟩

instance : Inhabited (Table α) := ⟨empty⟩

def get (t : Table α) (i : Nat) : α := t.records[i]?.getD default

def putAt : List α → Nat → α → List α
  | [], 0, a => [a]
  | [], i + 1, a => default :: putAt [] i a
  | _ :: rest, 0, a => a :: rest
  | b :: rest, i + 1, a => b :: putAt rest i a

def put (t : Table α) (i : Nat) (a : α) : Table α := ⟨putAt t.records i a⟩

theorem getElem?_putAt (l : List α) (i j : Nat) (a : α) :
    (putAt l i a)[j]?.getD default = if i = j then a else l[j]?.getD default := by
  induction l, i, a using putAt.induct generalizing j with
  | case1 a => cases j <;> simp [putAt]
  | case2 i a ih => cases j <;> simp [putAt, ih]
  | case3 b rest a => cases j <;> simp [putAt]
  | case4 b rest i a ih => cases j <;> simp [putAt, ih]

theorem get_put (t : Table α) (i j : Nat) (a : α) :
    (t.put i a).get j = if i = j then a else t.get j :=
  getElem?_putAt t.records i j a

end Table

end SqlScope
