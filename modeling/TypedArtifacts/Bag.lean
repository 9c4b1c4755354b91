import TypedArtifacts.Artifact

namespace TypedArtifacts

structure BagValue where
  type : StoredType
  value : Json

inductive DependencyEntry (β : Type) where
  | id (id : String)
  | expanded (bag : β)

/-- Properties lie flat under dotted keys; blobs and dependencies are lists. All keys ascend. -/
structure Bag extends Header where
  typeName : String
  typeVersion : String
  properties : List (String × BagValue)
  blobs : List (String × List Blob)
  dependencies : List (String × List (DependencyEntry Bag))

namespace Bag

def targetId : DependencyEntry Bag → String
  | .id id => id
  | .expanded bag => bag.id

@[simp] theorem targetId_id (id : String) : targetId (.id id) = id := rfl

def dependencyIds (b : Bag) : List String :=
  b.dependencies.flatMap fun (_, entries) => entries.map targetId

def collapsed (b : Bag) : Bag :=
  { b with dependencies := Dict.mapValues (·.map fun e => .id (targetId e)) b.dependencies }

theorem dependencyIds_collapsed (b : Bag) : b.collapsed.dependencyIds = b.dependencyIds := by
  simp [dependencyIds, collapsed, Dict.mapValues, List.flatMap_map, Function.comp_def]

theorem collapsed_collapsed (b : Bag) : b.collapsed.collapsed = b.collapsed := by
  simp [collapsed, Dict.mapValues, Function.comp_def]

end Bag

end TypedArtifacts
