import TypedArtifacts.Definition.Facet
import TypedArtifacts.Definition.Validation

namespace TypedArtifacts

inductive Conflict where
  | misuse (m : Misuse)
  | inverted (low high : String)
  | declaredTwice
  deriving DecidableEq

def Conflict.message : Conflict → String
  | misuse m => m.message
  | inverted low high => low ++ " is greater than " ++ high
  | declaredTwice => "attribute declared twice"

inductive SchemaError where
  | invalidTypeName (name : String)
  | invalidTypeVersion (name version : String)
  | invalidAttributeName (name : String)
  | invalidDefault (place message : String)
  | invalidAllowedValue (place message : String)
  | conflictingFacets (place : String) (conflict : Conflict)
  | reservedName (name : String)
  | alreadyNamed (existing requested : String)
  | unknownMutabilityFlag (flag : String)
  deriving DecidableEq

namespace SchemaError

def message : SchemaError → String
  | invalidTypeName name => "invalid type name '" ++ name ++ "'"
  | invalidTypeVersion name version =>
    "invalid type version '" ++ version ++ "' for type '" ++ name ++ "'"
  | invalidAttributeName name => "invalid attribute name '" ++ name ++ "'"
  | invalidDefault place message => "attribute '" ++ place ++ "' has an invalid default: " ++ message
  | invalidAllowedValue place message =>
    "attribute '" ++ place ++ "' has an invalid allowed value: " ++ message
  | conflictingFacets place conflict =>
    "attribute '" ++ place ++ "' has conflicting facets: " ++ conflict.message
  | reservedName name => "attribute name '" ++ name ++ "' is reserved for a common artifact field"
  | alreadyNamed existing requested =>
    "attribute already named '" ++ existing ++ "', cannot rename to '" ++ requested ++ "'"
  | unknownMutabilityFlag flag => "mutability flag '" ++ flag ++ "' is not a declared boolean property"

end SchemaError

namespace Definition

variable {ρ : Type}

def assignName (name : String) (d : Definition ρ) : Except SchemaError (Definition ρ) :=
  match d.name with
  | some existing => .error (.alreadyNamed existing name)
  | none => .ok { d with name := some name }

def limitIn? (vs : List (Validator ρ)) (slot : String) : Option Limit :=
  (vs.find? (·.slot = slot)).bind fun v =>
    match v.rule with
    | .limit l => some l
    | _ => none

def exceeds : Limit → Limit → Bool
  | .minLength m, .maxLength n => n < m
  | .minValue x, .maxValue y => y.lt x
  | .minSize m, .maxSize n => n < m
  | .minKeys m, .maxKeys n => n < m
  | .minBlobSize m, .maxBlobSize n => n < m
  | .minLocations m, .maxLocations n => n < m
  | _, _ => false

def boundSlots : List (String × String) :=
  [("min_length", "max_length"), ("min_value", "max_value"), ("min_size", "max_size"),
    ("min_keys", "max_keys"), ("min_blob_size", "max_blob_size"), ("min_locations", "max_locations")]

def isInverted (vs : List (Validator ρ)) (slots : String × String) : Bool :=
  match limitIn? vs slots.1, limitIn? vs slots.2 with
  | some low, some high => exceeds low high
  | _, _ => false

def checkBounds (place : String) (vs : List (Validator ρ)) : Except SchemaError Unit :=
  match boundSlots.find? (isInverted vs) with
  | some (low, high) => .error (.conflictingFacets place (.inverted low high))
  | none => .ok ()

def checkMisuses (place : String) (ms : List Misuse) : Except SchemaError Unit :=
  match ms with
  | [] => .ok ()
  | m :: _ => .error (.conflictingFacets place (.misuse m))

section

variable [Referent ρ] [Predicates ρ]

def checkAllowed (place : String) (d : Definition ρ) (v : Value ρ) : Except SchemaError Unit :=
  let checked := do
    runValidators place v (d.validators.filter (·.slot != "allowed_values"))
    validateParts d.kind place v
  checked.mapError fun e => .invalidAllowedValue place (v.display ++ ": " ++ e.violation.message)

def checkDefault (place : String) (d : Definition ρ) : Except SchemaError Unit :=
  match d.default with
  | none => .ok ()
  | some v =>
    (d.validateAs place (some v)).mapError fun e => .invalidDefault place e.violation.message

def checkValues (place : String) (d : Definition ρ) : Except SchemaError Unit := do
  (d.allowedValues?.getD []).forM (checkAllowed place d)
  checkDefault place d

mutual

def checkDeclaration : Definition ρ → String → Except SchemaError Unit
  | ⟨t, kind⟩, place => do
    checkMisuses place t.misuses
    checkBounds place t.validators
    checkParts kind place
    checkValues place ⟨t, kind⟩

def checkParts : Kind (Definition ρ) → String → Except SchemaError Unit
  | .list item, place => item.checkDeclaration (place ++ "[]")
  | .tuple items, place => checkItems items place 0
  | .dict value, place => value.checkDeclaration (place ++ ".*")
  | .composite keys, place => checkKeys keys place
  | _, _ => .ok ()

def checkItems : List (Definition ρ) → String → Nat → Except SchemaError Unit
  | [], _, _ => .ok ()
  | d :: ds, place, i => do
    d.checkDeclaration (itemPlace place i)
    checkItems ds place (i + 1)

def checkKeys : List (String × Definition ρ) → String → Except SchemaError Unit
  | [], _ => .ok ()
  | (k, d) :: rest, place => do
    d.checkDeclaration (keyPlace place k)
    checkKeys rest place

end

end

end Definition

end TypedArtifacts
