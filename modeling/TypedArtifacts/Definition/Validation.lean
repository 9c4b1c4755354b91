import TypedArtifacts.Violation
import TypedArtifacts.Definition

namespace TypedArtifacts.Definition

variable {ρ : Type}

def itemPlace (place : String) (index : Nat) : String :=
  place ++ "[" ++ toString index ++ "]"

def keyPlace (place key : String) : String :=
  place ++ "." ++ key

variable [Referent ρ] [Predicates ρ]

def runValidators (place : String) (v : Value ρ) : List (Validator ρ) → Except ValidationError Unit
  | [] => .ok ()
  | w :: ws =>
    if w.rule.violatedBy v then .error ⟨place, .rule w.message, some v.toJson⟩
    else runValidators place v ws

def eachItem (check : String → Value ρ → Except ValidationError Unit) (place : String) :
    Nat → List (Value ρ) → Except ValidationError Unit
  | _, [] => .ok ()
  | i, v :: vs => do
    check (itemPlace place i) v
    eachItem check place (i + 1) vs

def eachEntry (check : String → Value ρ → Except ValidationError Unit) (place : String) :
    List (String × Value ρ) → Except ValidationError Unit
  | [] => .ok ()
  | (k, v) :: es => do
    check (keyPlace place k) v
    eachEntry check place es

mutual

def validateAs : Definition ρ → String → Option (Value ρ) → Except ValidationError Unit
  | ⟨t, _⟩, place, none => if t.required then .error ⟨place, .required, none⟩ else .ok ()
  | ⟨t, kind⟩, place, some v => do
    runValidators place v t.validators
    validateParts kind place v

def validateParts : Kind (Definition ρ) → String → Value ρ → Except ValidationError Unit
  | .list item, place, .list vs => eachItem (fun place v => item.validateAs place (some v)) place 0 vs
  | .tuple items, place, .list vs => validateItems items place 0 vs
  | .dict value, place, .dict es => eachEntry (fun place v => value.validateAs place (some v)) place es
  | .composite keys, place, .dict es =>
    match es.find? fun e => (keys.lookup e.1).isNone with
    | some (key, _) => .error ⟨place, .keyNotAllowed key, some (Value.dict es).toJson⟩
    | none => validateKeys keys place es
  | _, _, _ => .ok ()

def validateItems : List (Definition ρ) → String → Nat → List (Value ρ) → Except ValidationError Unit
  | _, _, _, [] => .ok ()
  | [], place, i, _ :: _ => .error ⟨itemPlace place i, .noItemDefinition, none⟩
  | d :: ds, place, i, v :: vs => do
    d.validateAs (itemPlace place i) (some v)
    validateItems ds place (i + 1) vs

def validateKeys : List (String × Definition ρ) → String → List (String × Value ρ) →
    Except ValidationError Unit
  | [], _, _ => .ok ()
  | (k, d) :: rest, place, es => do
    d.validateAs (keyPlace place k) (es.lookup k)
    validateKeys rest place es

end

def validate (d : Definition ρ) (v : Option (Value ρ)) : Except ValidationError Unit :=
  d.validateAs d.label v

end TypedArtifacts.Definition
