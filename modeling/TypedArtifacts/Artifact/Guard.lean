import TypedArtifacts.Artifact.Access

/-!
Guarded edits of list and dict attributes: every edit is made on a copy, and the whole is checked
before it is stored.
-/

namespace TypedArtifacts

structure Guard where
  name : String
  field : Field Artifact
  frozen : Bool

inductive ListEdit where
  | append (v : Value Artifact)
  | extend (vs : List (Value Artifact))
  | insert (index : Nat) (v : Value Artifact)
  | setItem (index : Nat) (v : Value Artifact)
  | remove (index : Nat)
  | pop
  | clear

namespace ListEdit

def run : ListEdit → List (Value Artifact) → Except Nat (List (Value Artifact) × Option (Value Artifact))
  | append v, vs => .ok (vs ++ [v], none)
  | extend ws, vs => .ok (vs ++ ws, none)
  | insert i v, vs => if i ≤ vs.length then .ok (vs.insertIdx i v, none) else .error i
  | setItem i v, vs => if i < vs.length then .ok (vs.set i v, none) else .error i
  | remove i, vs => if i < vs.length then .ok (vs.eraseIdx i, vs[i]?) else .error i
  | pop, vs => .ok (vs.dropLast, vs.getLast?)
  | clear, _ => .ok ([], none)

end ListEdit

inductive DictEdit where
  | insert (key : String) (v : Value Artifact)
  | remove (key : String)
  | update (entries : List (String × Value Artifact))
  | clear

namespace DictEdit

def run : DictEdit → List (String × Value Artifact) → List (String × Value Artifact) × Option (Value Artifact)
  | insert k v, es => (Dict.insert k v es, es.lookup k)
  | remove k, es => (Dict.erase k es, es.lookup k)
  | update entries, es => (Dict.update es entries, none)
  | clear, _ => ([], none)

end DictEdit

namespace Guard

def items (g : Guard) : List (Value Artifact) :=
  (g.field.stored.bind (·.list?)).getD []

def entries (g : Guard) : List (String × Value Artifact) :=
  (g.field.stored.bind (·.dict?)).getD []

variable [Predicates Artifact]

def replace (g : Guard) (v : Value Artifact) : Except ValidationError Guard := do
  let f ← g.field.store g.name (some v)
  return { g with field := f }

def editList (edit : ListEdit) (g : Guard) : Except ValidationError (Guard × Option (Value Artifact)) := do
  if g.frozen then throw ⟨g.name, .readOnly, none⟩
  match edit.run g.items with
  | .error index => throw ⟨g.name, .outOfRange index g.items.length, none⟩
  | .ok (vs, taken) => return (← g.replace (.list vs), taken)

def editDict (edit : DictEdit) (g : Guard) : Except ValidationError (Guard × Option (Value Artifact)) := do
  if g.frozen then throw ⟨g.name, .readOnly, none⟩
  let (es, previous) := edit.run g.entries
  return (← g.replace (.dict es), previous)

end Guard

namespace Artifact

variable [ArtifactPredicates]

def guard (name : String) (f : Field Artifact) (a : Artifact) : Guard :=
  ⟨name, f.materialize, f.isReadOnly a.isMutable⟩

def openList (name : String) (a : Artifact) : Except ValidationError Guard := do
  let f ← a.findField name
  if !f.definition.kind.isList then throw ⟨name, .notList, none⟩
  return a.guard name f

def openDict (name : String) (a : Artifact) : Except ValidationError Guard := do
  let f ← a.findField name
  if !f.definition.kind.isDict then throw ⟨name, .notDict, none⟩
  return a.guard name f

def close (g : Guard) (a : Artifact) : Artifact :=
  a.withField g.name g.field

variable [Predicates Artifact]

def editList (name : String) (edit : ListEdit) (a : Artifact) :
    Except ValidationError (Artifact × Option (Value Artifact)) := do
  let g ← a.openList name
  let (g, taken) ← g.editList edit
  return (a.close g, taken)

def editDict (name : String) (edit : DictEdit) (a : Artifact) :
    Except ValidationError (Artifact × Option (Value Artifact)) := do
  let g ← a.openDict name
  let (g, previous) ← g.editDict edit
  return (a.close g, previous)

end Artifact

end TypedArtifacts
