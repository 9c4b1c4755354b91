import TypedArtifacts.Rule

namespace TypedArtifacts

inductive Scalar where
  | string
  | text
  | integer
  | numeric
  | boolean
  | datetime
  deriving DecidableEq

namespace Scalar

def name : Scalar → String
  | string => "string"
  | text => "text"
  | integer => "integer"
  | numeric => "numeric"
  | boolean => "boolean"
  | datetime => "datetime"

def shape : Scalar → Shape
  | string => .string
  | text => .string
  | integer => .integer
  | numeric => .numeric
  | boolean => .boolean
  | datetime => .datetime

def storedType : Scalar → StoredType
  | string => .string
  | text => .text
  | integer => .int
  | numeric => .numeric
  | boolean => .bool
  | datetime => .datetime

def isText : Scalar → Bool
  | string => true
  | text => true
  | _ => false

def isNumber : Scalar → Bool
  | integer => true
  | numeric => true
  | _ => false

end Scalar

inductive Kind (δ : Type) where
  | scalar (s : Scalar)
  | list (item : δ)
  | tuple (items : List δ)
  | dict (value : δ)
  | composite (keys : List (String × δ))
  | relation
  | blob

inductive Role where
  | property
  | dependency
  | blob
  deriving DecidableEq

def Role.name : Role → String
  | property => "property"
  | dependency => "dependency"
  | blob => "blob"

namespace Kind

variable {δ : Type}

def shape : Kind δ → Shape
  | scalar s => s.shape
  | list _ => .list
  | tuple _ => .list
  | dict _ => .dict
  | composite _ => .dict
  | relation => .artifact
  | blob => .blob

def label : Kind δ → String
  | scalar s => s.name
  | list _ => "array"
  | tuple _ => "array"
  | dict _ => "dict"
  | composite _ => "dict"
  | relation => "relation"
  | blob => "blob"

def isText : Kind δ → Bool
  | scalar s => s.isText
  | _ => false

def isNumber : Kind δ → Bool
  | scalar s => s.isNumber
  | _ => false

def isList : Kind δ → Bool
  | list _ => true
  | tuple _ => true
  | _ => false

def isDict : Kind δ → Bool
  | dict _ => true
  | composite _ => true
  | _ => false

def isRelation : Kind δ → Bool
  | relation => true
  | _ => false

def isBlob : Kind δ → Bool
  | blob => true
  | _ => false

def admits (kind : Kind δ) : Limit → Bool
  | .minLength _ => kind.isText
  | .maxLength _ => kind.isText
  | .pattern _ => kind.isText
  | .minValue _ => kind.isNumber
  | .maxValue _ => kind.isNumber
  | .minSize _ => kind.isList
  | .maxSize _ => kind.isList
  | .unique => kind.isList
  | .minKeys _ => kind.isDict
  | .maxKeys _ => kind.isDict
  | .referenceTypes _ => kind.isRelation
  | .referenceVersion _ => kind.isRelation
  | .minBlobSize _ => kind.isBlob
  | .maxBlobSize _ => kind.isBlob
  | .minLocations _ => kind.isBlob
  | .maxLocations _ => kind.isBlob

end Kind

inductive Misuse where
  | misplaced (slot label : String)
  | relationMutable
  | badPattern (source : String)
  deriving DecidableEq

def Misuse.message : Misuse → String
  | misplaced slot label => "facet '" ++ slot ++ "' does not apply to " ++ label
  | relationMutable => "relations are never mutable"
  | badPattern source => "invalid pattern '" ++ source ++ "'"

structure Traits (ρ : Type) where
  name : Option String
  displayName : Option String
  description : Option String
  readonly : Bool
  mutable : Bool
  required : Bool
  default : Option (Value ρ)
  validators : List (Validator ρ)
  misuses : List Misuse

structure Definition (ρ : Type) extends Traits ρ where
  kind : Kind (Definition ρ)

namespace Definition

variable {ρ : Type}

def role : Definition ρ → Role
  | ⟨_, .relation⟩ => .dependency
  | ⟨_, .blob⟩ => .blob
  | ⟨_, .list ⟨_, .relation⟩⟩ => .dependency
  | ⟨_, .list ⟨_, .blob⟩⟩ => .blob
  | _ => .property

def label (d : Definition ρ) : String :=
  d.name.getD "<unnamed>"

def title? (d : Definition ρ) : Option String :=
  d.displayName.or d.name

def itemAt? (d : Definition ρ) (index : Nat) : Option (Definition ρ) :=
  match d.kind with
  | .list item => some item
  | .tuple items => items[index]?
  | _ => none

def valueAt? (d : Definition ρ) (key : String) : Option (Definition ρ) :=
  match d.kind with
  | .dict value => some value
  | .composite keys => keys.lookup key
  | _ => none

def declaredKeys? (d : Definition ρ) : Option (List (String × Definition ρ)) :=
  match d.kind with
  | .composite keys => some keys
  | _ => none

def storedType? (d : Definition ρ) : Option StoredType :=
  match d.kind with
  | .scalar s => some s.storedType
  | .list _ => some .array
  | .tuple _ => some .array
  | _ => none

def emptyContainer? (d : Definition ρ) : Option (Value ρ) :=
  if d.kind.isList then some (.list [])
  else if d.kind.isDict then some (.dict [])
  else none

def ruleIn? (d : Definition ρ) (slot : String) : Option (Rule ρ) :=
  (d.validators.find? (·.slot = slot)).map (·.rule)

def allowedValues? (d : Definition ρ) : Option (List (Value ρ)) :=
  match d.ruleIn? "allowed_values" with
  | some (.allowedValues values) => some values
  | _ => none

def install (v : Validator ρ) (d : Definition ρ) : Definition ρ :=
  { d with validators := v.install d.validators }

def misuse (m : Misuse) (d : Definition ρ) : Definition ρ :=
  { d with misuses := d.misuses ++ [m] }

def ofKind (kind : Kind (Definition ρ)) : Definition ρ where
  name := none
  displayName := none
  description := none
  readonly := false
  mutable := true
  required := false
  default := none
  validators := [.ofRule "type" (.shape kind.shape)]
  misuses := []
  kind := kind

def scalar (s : Scalar) : Definition ρ :=
  ofKind (.scalar s)

def relation : Definition ρ :=
  { ofKind .relation with mutable := false }

def blob : Definition ρ :=
  ofKind .blob

def list (item : Definition ρ) : Definition ρ :=
  { ofKind (.list item) with mutable := !item.kind.isRelation }

def arityMessage (n : Nat) : String :=
  "Tuple cannot hold more than " ++ toString n ++ " items"

def tuple (items : List (Definition ρ)) : Definition ρ :=
  (ofKind (.tuple items)).install
    ⟨"arity", .limit (.maxSize items.length), arityMessage items.length⟩

def dict (value : Definition ρ) : Definition ρ :=
  ofKind (.dict value)

def composite (keys : List (String × Definition ρ)) : Definition ρ :=
  ofKind (.composite (Dict.ofList keys))

end Definition

end TypedArtifacts
