import TypedArtifacts.Dict
import TypedArtifacts.Digest.Blake3

namespace TypedArtifacts

inductive StorageError where
  | notFound (place : String)
  | unsupported (place : String)
  | deletesRefused (place : String)
  | broken (reason : String)
  deriving DecidableEq

def StorageError.message : StorageError → String
  | notFound place => "no blob data at '" ++ place ++ "'"
  | unsupported place => "no storage backend serves '" ++ place ++ "'"
  | deletesRefused place => "storage backend refuses to delete '" ++ place ++ "'"
  | broken reason => "storage I/O error: " ++ reason

structure Receipt where
  place : String
  size : Nat
  checksum : String
  deriving DecidableEq

structure Storage where
  objects : List (String × List UInt8) := []
  deletes : Bool := true
  faulty : List Nat := []
  uploads : Nat := 0
  issued : Nat := 0

namespace Storage

def scheme : String := "memory://"

def serves (place : String) : Bool :=
  scheme.toList.isPrefixOf place.toList

def placeOf (key : String) : String :=
  scheme ++ key

def upload (key : String) (data : List UInt8) (size : Option Nat) (s : Storage) :
    Storage × Except StorageError Receipt :=
  let s := { s with uploads := s.uploads + 1 }
  if s.faulty.contains s.uploads then (s, .error (.broken "upload refused"))
  else
    ({ s with objects := Dict.insert (placeOf key) data s.objects },
      .ok ⟨placeOf key, size.getD data.length, Digest.Blake3.hex data⟩)

def download (place : String) (s : Storage) : Except StorageError (List UInt8) :=
  if !serves place then .error (.unsupported place)
  else
    match s.objects.lookup place with
    | some data => .ok data
    | none => .error (.notFound place)

def delete (place : String) (s : Storage) : Storage × Except StorageError Unit :=
  if !serves place then (s, .error (.unsupported place))
  else if !s.deletes then (s, .error (.deletesRefused place))
  else if Dict.contains place s.objects then ({ s with objects := Dict.erase place s.objects }, .ok ())
  else (s, .error (.notFound place))

def discard (places : List String) (s : Storage) : Storage :=
  places.foldl (fun s place => (s.delete place).1) s

def issue (s : Storage) : Storage × String :=
  let s := { s with issued := s.issued + 1 }
  (s, "\x7bu" ++ toString s.issued ++ "\x7d")

end Storage

end TypedArtifacts
