import TypedArtifacts.Json

namespace TypedArtifacts

inductive Violation where
  | required
  | readOnly
  | frozen
  | unknownProperty
  | rule (message : String)
  | wrongType (expected : String)
  | noItemDefinition
  | keyNotAllowed (key : String)
  | nullItem
  | notFromJson
  | outOfRange (index size : Nat)
  | notList
  | notDict
  | notBlob
  | notBlobList
  | blobUnset
  | blobIndexMismatch
  | notVersion
  | unknownState
  | unknownLevel
  | notId
  | notIdList
  | blobInPatch
  | inputNotAccepted (kind : String)
  deriving DecidableEq

namespace Violation

def message : Violation → String
  | required => "Value is required"
  | readOnly => "Attribute is read-only"
  | frozen => "Attribute cannot be changed once the artifact is no longer mutable"
  | unknownProperty => "unknown property"
  | rule message => message
  | wrongType expected => "Value must be of type " ++ expected
  | noItemDefinition => "No item definition for this position"
  | keyNotAllowed key => "Key '" ++ key ++ "' is not allowed"
  | nullItem => "List items cannot be null"
  | notFromJson => "Value cannot be built from JSON"
  | outOfRange index size =>
    "Index " ++ toString index ++ " is out of range for a list of " ++ toString size ++ " items"
  | notList => "Attribute is not a list"
  | notDict => "Attribute is not a dict"
  | notBlob => "Attribute is not a blob"
  | notBlobList => "Attribute is not a list of blobs"
  | blobUnset => "Blob attribute is not set"
  | blobIndexMismatch => "Blob index does not match the attribute kind"
  | notVersion => "Version must be a semantic version"
  | unknownState => "Unknown artifact state"
  | unknownLevel => "Unknown show level"
  | notId => "Value must be an artifact id"
  | notIdList => "Value must be a list of artifact ids"
  | blobInPatch => "Blob data cannot be set through a patch"
  | inputNotAccepted kind => "Attribute does not accept " ++ kind ++ " input"

end Violation

structure ValidationError where
  place : String
  violation : Violation
  value : Option Json := none

namespace ValidationError

def message (e : ValidationError) : String :=
  "invalid value for '" ++ e.place ++ "': " ++ e.violation.message

end ValidationError

end TypedArtifacts
