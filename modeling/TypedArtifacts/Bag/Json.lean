import TypedArtifacts.Bag
import TypedArtifacts.Json.Fields

namespace TypedArtifacts

namespace BagValue

def toJson (v : BagValue) : Json :=
  .record [("type", .str v.type.name), ("value", v.value)]

def ofJson? (j : Json) : Option BagValue := do
  let fields ← j.fields? ["type", "value"] 2
  let type ← (← fields.lookup "type").constant?
  return ⟨← StoredType.ofName? type, ← fields.lookup "value"⟩

end BagValue

namespace Bag

def fieldNames : List String :=
  ["id", "name", "version", "type_name", "type_version", "visibility", "state", "owner", "created_at",
    "updated_at", "published_at", "deleted_at", "tags", "description", "properties", "blobs",
    "dependencies"]

def leastFields : Nat := 14

def instant? (j : Json) : Option Instant :=
  j.str?.bind Instant.parseLenient?

def headerOfFields? (fields : List (String × Json)) : Option Header := do
  let text (key : String) : Option String := (fields.lookup key).bind (·.str?)
  let constant (key : String) : Option String := (fields.lookup key).bind (·.constant?)
  let moment (key : String) : Option Instant := (fields.lookup key).bind instant?
  return {
    id := ← text "id"
    name := ← text "name"
    version := ← text "version"
    visibility := ← (constant "visibility").bind Visibility.ofName?
    state := ← (constant "state").bind Lifecycle.ofName?
    owner := ← Json.optional? Json.str? (fields.lookup "owner")
    createdAt := ← moment "created_at"
    updatedAt := ← moment "updated_at"
    publishedAt := ← Json.optional? instant? (fields.lookup "published_at")
    deletedAt := ← Json.optional? instant? (fields.lookup "deleted_at")
    tags := Header.tagSet (← Json.defaulted? (Json.listOf? Json.str?) [] (fields.lookup "tags"))
    description := ← Json.optional? Json.str? (fields.lookup "description") }

def shallowOfFields? (fields : List (String × Json)) : Option Bag := do
  let header ← headerOfFields? fields
  return {
    header with
    typeName := ← (fields.lookup "type_name").bind (·.str?)
    typeVersion := ← (fields.lookup "type_version").bind (·.str?)
    properties := ← Json.defaulted? (Json.dictOf? BagValue.ofJson?) [] (fields.lookup "properties")
    blobs := ← Json.defaulted? (Json.dictOf? (Json.listOf? Blob.ofJson?)) [] (fields.lookup "blobs")
    dependencies := [] }

mutual

def ofJson? : Json → Option Bag
  | .obj fields => do
    let bag ← shallowOfFields? fields
    return { bag with dependencies := ← dependenciesIn? fields }
  | .arr items => do
    if items.length < leastFields ∨ fieldNames.length < items.length then none
    let bag ← shallowOfFields? (fieldNames.zip items)
    return { bag with dependencies := ← dependenciesAt? 16 items }
  | _ => none

def dependenciesIn? : List (String × Json) → Option (List (String × List (DependencyEntry Bag)))
  | [] => some []
  | (key, j) :: fields => if key = "dependencies" then dependencies? j else dependenciesIn? fields

def dependenciesAt? : Nat → List Json → Option (List (String × List (DependencyEntry Bag)))
  | _, [] => some []
  | 0, j :: _ => dependencies? j
  | n + 1, _ :: items => dependenciesAt? n items

def dependencies? : Json → Option (List (String × List (DependencyEntry Bag)))
  | .obj fields => entriesByName? fields
  | _ => none

def entriesByName? : List (String × Json) → Option (List (String × List (DependencyEntry Bag)))
  | [] => some []
  | (key, j) :: fields => do
    let es ← entries? j
    return (key, es) :: (← entriesByName? fields)

def entries? : Json → Option (List (DependencyEntry Bag))
  | .arr items => entryList? items
  | _ => none

def entryList? : List Json → Option (List (DependencyEntry Bag))
  | [] => some []
  | .str id :: items => do return .id id :: (← entryList? items)
  | j :: items => do
    let bag ← ofJson? j
    return .expanded bag :: (← entryList? items)

end

mutual

def toJson : Bag → Json
  | ⟨header, typeName, typeVersion, properties, blobs, dependencies⟩ =>
    .record (header.toFields Instant.exact ++ [("type_name", .str typeName),
      ("type_version", .str typeVersion), ("properties", .obj (Dict.mapValues (·.toJson) properties)),
      ("blobs", .obj (Dict.mapValues (fun bs => .arr (bs.map (·.toJson))) blobs)),
      ("dependencies", .obj (entriesToJson dependencies))])

def entriesToJson : List (String × List (DependencyEntry Bag)) → List (String × Json)
  | [] => []
  | (name, entries) :: rest => (name, .arr (entryListToJson entries)) :: entriesToJson rest

def entryListToJson : List (DependencyEntry Bag) → List Json
  | [] => []
  | .id id :: entries => .str id :: entryListToJson entries
  | .expanded bag :: entries => bag.toJson :: entryListToJson entries

end

end Bag

end TypedArtifacts
