import TypedArtifacts.Bag.Groups
import TypedArtifacts.Definition.Conversion
import TypedArtifacts.Fault

namespace TypedArtifacts.Artifact

abbrev Values := List (String × Option (Value Artifact))

def definitionOf (t : ArtifactType) (name : String) : Except Fault (Definition Artifact) :=
  match t.attributes.lookup name with
  | some d => .ok d
  | none => .error (.validation ⟨name, .unknownProperty, none⟩)

def propertyValue (t : ArtifactType) (name : String) (l : Leaves) :
    Except Fault (String × Option (Value Artifact)) := do
  let d ← definitionOf t name
  let v ← (d.fromJsonAs name (l.toJson d)).mapError .validation
  return (name, v)

def collect (d : Definition Artifact) (items : List (Value Artifact)) : Option (Value Artifact) :=
  if d.kind.isList then some (.list items) else items.head?

def blobValue (t : ArtifactType) (name : String) (blobs : List Blob) :
    Except Fault (String × Option (Value Artifact)) := do
  let d ← definitionOf t name
  return (name, collect d (blobs.map .blob))

section

variable [Predicates Artifact]

mutual

def ofBag (c : Catalog) : Bag → Except Fault Artifact
  | ⟨header, typeName, typeVersion, properties, blobs, dependencies⟩ => do
    let t ← (c.byName typeName (some typeVersion)).mapError .catalog
    let properties ← (Leaves.ofProperties properties).mapM fun (name, l) => propertyValue t name l
    let blobs ← blobs.mapM fun (name, bs) => blobValue t name bs
    let targets ← dependencyValues c t header.id dependencies
    let a ← (ofValues t header.id header.createdAt (properties ++ blobs ++ targets)).mapError .validation
    return { a with toHeader := header }

def dependencyValues (c : Catalog) (t : ArtifactType) (id : String) :
    List (String × List (DependencyEntry Bag)) → Except Fault Values
  | [] => .ok []
  | (name, entries) :: rest => do
    let d ← definitionOf t name
    let targets ← targetValues c id entries
    return (name, collect d targets) :: (← dependencyValues c t id rest)

def targetValues (c : Catalog) (id : String) :
    List (DependencyEntry Bag) → Except Fault (List (Value Artifact))
  | [] => .ok []
  | .id target :: _ => .error (.store (.corrupt id (.notExpanded target)))
  | .expanded bag :: rest => do
    let a ← ofBag c bag
    return .artifact a :: (← targetValues c id rest)

end

end

end TypedArtifacts.Artifact
