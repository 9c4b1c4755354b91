import TypedArtifacts.Artifact.Access
import TypedArtifacts.Bag.Leaves

namespace TypedArtifacts.Bag

def propertiesOf (a : Artifact) : List (String × BagValue) :=
  Dict.ofList ((a.fieldsOf .property).flatMap fun (name, f) => f.definition.leaves name f.value? false)

def itemsOf {α : Type} (select : Value Artifact → Option α) : Option (Value Artifact) → Option (List α)
  | some (.list vs) => some (vs.filterMap select)
  | some v => (select v).map fun a => [a]
  | none => none

def selected {α : Type} (select : Value Artifact → Option α) (fields : List (String × Field Artifact)) :
    List (String × List α) :=
  fields.filterMap fun (name, f) => (itemsOf select f.value?).map fun items => (name, items)

def ofArtifact (a : Artifact) : Bag where
  toHeader := a.toHeader
  typeName := a.type.name
  typeVersion := a.type.version
  properties := propertiesOf a
  blobs := selected (·.blob?) (a.fieldsOf .blob)
  dependencies := selected (fun v => v.artifact?.map fun target => .id target.id) (a.fieldsOf .dependency)

@[simp] theorem ofArtifact_id (a : Artifact) : (ofArtifact a).id = a.id := rfl

@[simp] theorem ofArtifact_state (a : Artifact) : (ofArtifact a).state = a.state := rfl

end TypedArtifacts.Bag
