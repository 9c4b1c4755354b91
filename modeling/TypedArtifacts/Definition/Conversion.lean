import TypedArtifacts.Definition.Validation

namespace TypedArtifacts.Definition

variable {ρ : Type}

def wrongType (place expected : String) (j : Json) : ValidationError :=
  ⟨place, .wrongType expected, some j⟩

def scalarFromJson? : Scalar → Json → Option (Value ρ)
  | .string, j => j.str?.map .string
  | .text, j => j.str?.map .text
  | .integer, j => j.int64?.map fun n => .integer (Int64.ofInt n)
  | .numeric, j => j.number?.map .numeric
  | .boolean, j => j.bool?.map .boolean
  | .datetime, j => (j.str?.bind Instant.parse?).map .instant

def eachJsonItem (convert : String → Json → Except ValidationError (Option (Value ρ)))
    (place : String) : Nat → List Json → Except ValidationError (List (Value ρ))
  | _, [] => .ok []
  | i, j :: js => do
    match ← convert (itemPlace place i) j with
    | none => .error ⟨itemPlace place i, .nullItem, none⟩
    | some v =>
      let vs ← eachJsonItem convert place (i + 1) js
      return v :: vs

def eachJsonField (convert : String → Json → Except ValidationError (Option (Value ρ))) :
    List (String × Json) → Except ValidationError (List (String × Value ρ))
  | [] => .ok []
  | (k, j) :: fields => do
    let v ← convert k j
    let es ← eachJsonField convert fields
    return match v with
      | none => es
      | some v => (k, v) :: es

mutual

def fromJsonAs : Definition ρ → String → Json → Except ValidationError (Option (Value ρ))
  | _, _, .null => .ok none
  | ⟨_, kind⟩, place, j => (kindFromJson kind place j).map some

def kindFromJson : Kind (Definition ρ) → String → Json → Except ValidationError (Value ρ)
  | .scalar s, place, j =>
    match scalarFromJson? s j with
    | some v => .ok v
    | none => .error (wrongType place s.name j)
  | .list item, place, j =>
    match j.arr? with
    | some js => (eachJsonItem (fun place j => item.fromJsonAs place j) place 0 js).map .list
    | none => .error (wrongType place "array" j)
  | .tuple items, place, j =>
    match j.arr? with
    | some js => (itemsFromJson items place 0 js).map .list
    | none => .error (wrongType place "array" j)
  | .dict value, place, j =>
    match j.obj? with
    | some fields =>
      (eachJsonField (fun k j => value.fromJsonAs (keyPlace place k) j) fields).map .dict
    | none => .error (wrongType place "dict" j)
  | .composite keys, place, j =>
    match j.obj? with
    | some fields => (eachJsonField (fun k j => keyFromJson keys place k j) fields).map .dict
    | none => .error (wrongType place "dict" j)
  | .relation, place, j => .error ⟨place, .notFromJson, some j⟩
  | .blob, place, j => .error ⟨place, .notFromJson, some j⟩

def itemsFromJson : List (Definition ρ) → String → Nat → List Json →
    Except ValidationError (List (Value ρ))
  | _, _, _, [] => .ok []
  | [], place, i, _ :: _ => .error ⟨itemPlace place i, .noItemDefinition, none⟩
  | d :: ds, place, i, j :: js => do
    match ← d.fromJsonAs (itemPlace place i) j with
    | none => .error ⟨itemPlace place i, .nullItem, none⟩
    | some v =>
      let vs ← itemsFromJson ds place (i + 1) js
      return v :: vs

def keyFromJson : List (String × Definition ρ) → String → String → Json →
    Except ValidationError (Option (Value ρ))
  | [], place, key, _ => .error ⟨place, .keyNotAllowed key, none⟩
  | (k, d) :: rest, place, key, j =>
    if key = k then d.fromJsonAs (keyPlace place key) j else keyFromJson rest place key j

end

def fromJson (d : Definition ρ) (j : Json) : Except ValidationError (Option (Value ρ)) :=
  d.fromJsonAs d.label j

end TypedArtifacts.Definition
