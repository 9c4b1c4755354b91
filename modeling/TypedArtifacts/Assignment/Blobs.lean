import TypedArtifacts.Artifact.Guard
import TypedArtifacts.Assignment.Links

/-!
Assignment to blobs: bytes are uploaded to a storage, and bytes to which nothing refers any more are
deleted from it. Deletes that fail are passed over.
-/

namespace TypedArtifacts

mutual

def Value.places {ρ : Type} : Value ρ → List String
  | .blob b => b.places
  | .list vs => Value.placesOfItems vs
  | _ => []

def Value.placesOfItems {ρ : Type} : List (Value ρ) → List String
  | [] => []
  | v :: vs => v.places ++ Value.placesOfItems vs

end

namespace Artifact

def blobsIn : Value Artifact → List Blob
  | .blob b => [b]
  | .list vs => vs.filterMap (·.blob?)
  | _ => []

def heldPlaces (a : Artifact) : List String :=
  (a.fieldsOf .blob).flatMap fun (_, f) => (f.value?.toList.flatMap blobsIn).flatMap (·.places)

def blobField (name : String) (a : Artifact) : Except ValidationError (Field Artifact) := do
  let f ← a.findField name
  if f.definition.role = .blob then return f else throw ⟨name, .notBlob, none⟩

def blobListField (name : String) (a : Artifact) : Except ValidationError (Field Artifact) := do
  let f ← a.blobField name
  if f.definition.kind.isList then return f else throw ⟨name, .notBlobList, none⟩

end Artifact

structure Draft where
  artifact : Artifact
  storage : Storage

namespace Draft

def discard (places : List String) (d : Draft) : Draft :=
  { d with storage := d.storage.discard places }

def upload (name : String) (u : Upload) (d : Draft) : Draft × Except Fault Blob :=
  let (storage, mark) := d.storage.issue
  let key := d.artifact.id ++ "." ++ name ++ "." ++ mark
  let (storage, receipt) := storage.upload key u.data u.size
  ({ d with storage := storage },
    (receipt.map fun r => ⟨r.size, some r.checksum, key, [⟨r.place, .active⟩]⟩).mapError .storage)

def uploadAll (name : String) : List Upload → List Blob → Draft → Draft × Except Fault (List Blob)
  | [], done, d => (d, .ok done)
  | u :: us, done, d =>
    match d.upload name u with
    | (d, .ok b) => uploadAll name us (done ++ [b]) d
    | (d, .error e) => (d.discard (done.flatMap (·.places)), .error e)

def discardUnheld (places : List String) (d : Draft) : Draft :=
  d.discard (places.filter (!d.artifact.heldPlaces.contains ·))

def settle (written : Except Fault Artifact) (fresh : List Blob) (stale : List String) (d : Draft) :
    Draft × Except Fault Unit :=
  match written with
  | .ok a => ({ d with artifact := a }.discardUnheld stale, .ok ())
  | .error e => (d.discardUnheld (fresh.flatMap (·.places)), .error e)

section

variable [ArtifactPredicates] [Predicates Artifact]

def assignBlob (l : Links) (name : String) (isList : Bool) (input : Input) (d : Draft) :
    Draft × Except Fault Unit :=
  let write (v : Option (Value Artifact)) := d.artifact.assignLinked l name (.value v)
  let stale := (d.artifact.peek name).toList.flatMap (·.places)
  match isList, input with
  | _, .value v => d.settle (write v) [] stale
  | false, .upload u =>
    match d.upload name u with
    | (d, .ok b) => d.settle (write (some (.blob b))) [b] stale
    | (d, .error e) => (d, .error e)
  | true, .uploads us =>
    match d.uploadAll name us [] with
    | (d, .ok bs) => d.settle (write (some (.list (bs.map .blob)))) bs stale
    | (d, .error e) => (d, .error e)
  | _, input => (d, .error (input.refused name))

def assign (l : Links) (name : String) (input : Input) (d : Draft) : Draft × Except Fault Unit :=
  match d.artifact.blobField name with
  | .ok f =>
    if input.isUpload && d.artifact.isReadOnly name then (d, .error (.validation ⟨name, .readOnly, none⟩))
    else d.assignBlob l name f.definition.kind.isList input
  | .error _ =>
    match d.artifact.assignLinked l name input with
    | .ok a => ({ d with artifact := a }, .ok ())
    | .error e => (d, .error e)

def uploadItem (name : String) (edit : Value Artifact → ListEdit) (replaced : Option Nat) (u : Upload)
    (d : Draft) : Draft × Except Fault Unit :=
  match d.artifact.blobListField name with
  | .error e => (d, .error (.validation e))
  | .ok f =>
    if d.artifact.isReadOnly name then (d, .error (.validation ⟨name, .readOnly, none⟩))
    else
      match d.upload name u with
      | (d, .error e) => (d, .error e)
      | (d, .ok b) =>
        let items := (f.value?.bind (·.list?)).getD []
        let stale := (replaced.bind fun i => items[i]?).toList.flatMap Value.places
        let written := (d.artifact.editList name (edit (.blob b))).map (·.1)
        d.settle (written.mapError .validation) [b] stale

def appendBlob (name : String) (u : Upload) (d : Draft) : Draft × Except Fault Unit :=
  d.uploadItem name .append none u

def insertBlob (name : String) (index : Nat) (u : Upload) (d : Draft) : Draft × Except Fault Unit :=
  d.uploadItem name (.insert index) none u

def replaceBlob (name : String) (index : Nat) (u : Upload) (d : Draft) : Draft × Except Fault Unit :=
  d.uploadItem name (.setItem index) (some index) u

def removeBlob (name : String) (index : Nat) (d : Draft) : Draft × Except Fault Unit :=
  match d.artifact.blobListField name with
  | .error e => (d, .error (.validation e))
  | .ok _ =>
    match d.artifact.editList name (.remove index) with
    | .error e => (d, .error (.validation e))
    | .ok (a, removed) =>
      ({ d with artifact := a }.discard (removed.toList.flatMap Value.places), .ok ())

end

end Draft

def Storage.downloadFirst (s : Storage) (error : StorageError) : List String → Except StorageError (List UInt8)
  | [] => .error error
  | place :: places =>
    match s.download place with
    | .ok data => .ok data
    | .error e => s.downloadFirst e places

namespace Artifact

def findBlob (name : String) (index : Option Nat) (a : Artifact) : Except ValidationError Blob := do
  let f ← a.blobField name
  match f.value?, index with
  | none, _ => throw ⟨name, .blobUnset, none⟩
  | some (.blob b), none =>
    if f.definition.kind.isList then throw ⟨name, .blobIndexMismatch, none⟩ else return b
  | some (.list vs), some i =>
    match (vs[i]?).bind (·.blob?) with
    | some b => return b
    | none => throw ⟨name, .outOfRange i vs.length, none⟩
  | _, _ => throw ⟨name, .blobIndexMismatch, none⟩

def readBlob (name : String) (index : Option Nat) (s : Storage) (a : Artifact) : Except Fault (List UInt8) := do
  let b ← (a.findBlob name index).mapError .validation
  (s.downloadFirst (.notFound b.itemKey) b.activeLocations).mapError .storage

end Artifact

end TypedArtifacts
