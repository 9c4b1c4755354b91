import TypedArtifacts.Artifact.Access
import TypedArtifacts.Fault
import TypedArtifacts.Layers

namespace TypedArtifacts

structure Upload where
  data : List UInt8
  size : Option Nat := none
  deriving DecidableEq

inductive Input where
  | value (v : Option (Value Artifact))
  | reference (id : String)
  | references (ids : List String)
  | layered (l : Layered Artifact)
  | upload (u : Upload)
  | uploads (us : List Upload)

namespace Input

def kindName : Input → String
  | value _ => "value"
  | reference _ => "reference"
  | references _ => "references"
  | layered _ => "artifact"
  | upload _ => "upload"
  | uploads _ => "uploads"

def isUpload : Input → Bool
  | upload _ => true
  | uploads _ => true
  | _ => false

def refused (name : String) (input : Input) : Fault :=
  .validation ⟨name, .inputNotAccepted input.kindName, none⟩

end Input

namespace Artifact

variable [ArtifactPredicates] [Predicates Artifact]

def assign (name : String) (input : Input) (a : Artifact) : Except Fault Artifact :=
  match input with
  | .value v => (a.set name v).mapError .validation
  | input => .error (input.refused name)

end Artifact

end TypedArtifacts
