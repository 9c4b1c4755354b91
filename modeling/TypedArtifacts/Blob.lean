import TypedArtifacts.Json.Fields

/-!
Descriptors of binary objects: where the bytes are and how many there are, never the bytes.
-/

namespace TypedArtifacts

inductive LocationStatus where
  | active
  | pendingDelete
  | deleted
  deriving DecidableEq

namespace LocationStatus

def name : LocationStatus → String
  | active => "active"
  | pendingDelete => "pending_delete"
  | deleted => "deleted"

def all : List LocationStatus :=
  [active, pendingDelete, deleted]

def ofName? (text : String) : Option LocationStatus :=
  all.find? (·.name = text)

theorem ofName?_name (s : LocationStatus) : ofName? s.name = some s := by
  cases s <;> decide

end LocationStatus

structure BlobLocation where
  value : String
  status : LocationStatus
  deriving DecidableEq

def BlobLocation.toJson (l : BlobLocation) : Json :=
  .record [("value", .str l.value), ("status", .str l.status.name)]

structure Blob where
  size : Nat
  checksum : Option String
  itemKey : String
  locations : List BlobLocation
  deriving DecidableEq

namespace Blob

def activeLocations (b : Blob) : List String :=
  (b.locations.filter (·.status = .active)).map (·.value)

def places (b : Blob) : List String :=
  b.locations.map (·.value)

def toJson (b : Blob) : Json :=
  .record [("size", .ofNat b.size), ("checksum", .ofOption .str b.checksum),
    ("item_key", .str b.itemKey), ("locations", .arr (b.locations.map (·.toJson)))]

def locationOfJson? (j : Json) : Option BlobLocation := do
  let fields ← j.fields? ["value", "status"] 2
  let status ← (← fields.lookup "status").constant?
  return ⟨← (← fields.lookup "value").str?, ← LocationStatus.ofName? status⟩

def ofJson? (j : Json) : Option Blob := do
  let fields ← j.fields? ["size", "locations", "checksum", "item_key"] 4
  let locations ← (← fields.lookup "locations").listOf? locationOfJson?
  let checksum ← Json.optional? Json.str? (fields.lookup "checksum")
  return ⟨← (← fields.lookup "size").nat64?, checksum, ← (← fields.lookup "item_key").str?, locations⟩

end Blob

end TypedArtifacts
