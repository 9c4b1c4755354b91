import TypedArtifacts.Artifact.Access
import TypedArtifacts.Definition.Declaration
import TypedArtifacts.Definition.Schema
import TypedArtifacts.Version

namespace TypedArtifacts

structure ArtifactType extends TypeHeader where
  attributes : List (String × Definition Artifact)

namespace ArtifactType

def attributesOf (t : ArtifactType) (role : Role) : List (String × Definition Artifact) :=
  t.attributes.filter (·.2.role = role)

def parsedVersion? (t : ArtifactType) : Option Version :=
  Version.parse? t.version

def schema (t : ArtifactType) : Json :=
  .record [("name", .str t.name), ("version", .str t.version), ("display_name", .str t.displayName),
    ("description", .ofOption .str t.description), ("endpoint", .str t.endpoint),
    ("properties", .record (Dict.mapValues (·.schema) t.attributes)),
    ("required", .ofStrings (Dict.keys (t.attributes.filter (·.2.required))))]

end ArtifactType

structure Descriptor where
  name : String
  version : String
  displayName : Option String := none
  description : Option String := none
  endpoint : Option String := none
  parent : Option ArtifactType := none
  attributes : List (String × Definition Artifact) := []
  mutability : Option Mutability := none

namespace Descriptor

def commonFields : List String :=
  ["id", "name", "version", "type_name", "type_version", "visibility", "state", "owner",
    "created_at", "updated_at", "published_at", "deleted_at", "tags", "description"]

def isNameChar (c : Char) : Bool :=
  c.isAlphanum || c = '_'

def isTypeName (name : String) : Bool :=
  match name.toList with
  | c :: cs => c.isAlpha && cs.all isNameChar && cs.length ≤ 254
  | [] => false

def isAttributeName (name : String) : Bool :=
  match name.toList with
  | c :: cs => (c.isAlpha || c = '_') && cs.all isNameChar && cs.length ≤ 79
  | [] => false

def lowercase (text : String) : String :=
  String.ofList (text.toList.map Char.toLower)

section

variable [Predicates Artifact]

def declareAttribute (before : List String) (name : String) (d : Definition Artifact) :
    Except SchemaError (Definition Artifact) := do
  if !isAttributeName name then throw (.invalidAttributeName name)
  if commonFields.contains name then throw (.reservedName name)
  if before.contains name then throw (.conflictingFacets name .declaredTwice)
  let d ← d.assignName name
  d.checkDeclaration name
  return d

def declareAttributes : List String → List (String × Definition Artifact) →
    List (String × Definition Artifact) → Except SchemaError (List (String × Definition Artifact))
  | _, all, [] => .ok all
  | before, all, (name, d) :: rest => do
    let d ← declareAttribute before name d
    declareAttributes (name :: before) (Dict.insert name d all) rest

def isFlag (attributes : List (String × Definition Artifact)) (flag : String) : Bool :=
  (attributes.lookup flag).any fun d =>
    match d.kind with
    | .scalar .boolean => true
    | _ => false

def checkMutability (attributes : List (String × Definition Artifact)) : Mutability → Except SchemaError Unit
  | .untilFlagSet flag => if isFlag attributes flag then .ok () else .error (.unknownMutabilityFlag flag)
  | _ => .ok ()

def effectiveMutability (d : Descriptor) : Mutability :=
  (d.mutability.or (d.parent.map (·.mutability))).getD (.whileState .creating)

def declare (d : Descriptor) : Except SchemaError ArtifactType := do
  if !isTypeName d.name then throw (.invalidTypeName d.name)
  if !Version.isValid d.version then throw (.invalidTypeVersion d.name d.version)
  let inherited := (d.parent.map (·.attributes)).getD []
  let attributes ← declareAttributes [] inherited d.attributes
  checkMutability attributes d.effectiveMutability
  return {
    name := d.name
    version := d.version
    displayName := d.displayName.getD d.name
    description := d.description
    endpoint := d.endpoint.getD (lowercase d.name)
    mutability := d.effectiveMutability
    attributes := attributes }

end

end Descriptor

namespace Artifact

def blank (t : ArtifactType) (id : String) (now : Instant) : Artifact where
  id := id
  name := ""
  version := "0.0.0"
  visibility := .personal
  state := .creating
  owner := none
  createdAt := now
  updatedAt := now
  publishedAt := none
  deletedAt := none
  tags := []
  description := none
  type := t.toTypeHeader
  fields := Dict.mapValues Field.blank t.attributes

def create (t : ArtifactType) (id name version : String) (now : Instant) :
    Except ValidationError Artifact :=
  if Version.isValid version then .ok { (blank t id now).seedDefaults with name := name, version := version }
  else .error ⟨"version", .notVersion, some (.str version)⟩

section

variable [Predicates Artifact]

def storeAll (a : Artifact) : List (String × Option (Value Artifact)) → Except ValidationError Artifact
  | [] => .ok a
  | (name, v) :: rest => do
    let f ← a.findField name
    let f ← f.store name v
    storeAll (a.withField name f) rest

def checkRequired (a : Artifact) : Except ValidationError Unit :=
  match (a.fieldsOf .property).find? fun (_, f) => f.definition.required && f.value?.isNone with
  | some (name, _) => .error ⟨name, .required, none⟩
  | none => .ok ()

def ofValues (t : ArtifactType) (id : String) (now : Instant)
    (values : List (String × Option (Value Artifact))) : Except ValidationError Artifact := do
  let a ← storeAll (blank t id now).seedDefaults values
  a.checkRequired
  return a

end

end Artifact

end TypedArtifacts
