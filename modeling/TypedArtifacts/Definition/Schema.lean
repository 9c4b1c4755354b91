import TypedArtifacts.Definition

namespace TypedArtifacts.Definition

variable {ρ : Type} [Referent ρ]

def traitFields (label : String) (t : Traits ρ) : List (String × Json) :=
  [("type", .str label)] ++
    ((t.displayName.or t.name).toList.map fun s => ("display_name", .str s)) ++
    (t.description.toList.map fun s => ("description", .str s)) ++
    [("required", .bool t.required), ("readonly", .bool t.readonly), ("mutable", .bool t.mutable)] ++
    (t.default.toList.map fun v => ("default", v.toJson)) ++
    t.validators.filterMap (·.rule.keyword?)

mutual

def schema : Definition ρ → Json
  | ⟨t, kind⟩ => .record (traitFields kind.label t ++ schemaParts kind)

def schemaParts : Kind (Definition ρ) → List (String × Json)
  | .list item => [("items", item.schema)]
  | .tuple items => [("items", .arr (schemaItems items))]
  | .dict value => [("additionalProperties", value.schema)]
  | .composite keys =>
    [("properties", .record (schemaKeys keys)), ("additionalProperties", .bool false)]
  | _ => []

def schemaItems : List (Definition ρ) → List Json
  | [] => []
  | d :: ds => d.schema :: schemaItems ds

def schemaKeys : List (String × Definition ρ) → List (String × Json)
  | [] => []
  | (k, d) :: rest => (k, d.schema) :: schemaKeys rest

end

end TypedArtifacts.Definition
