import TypedArtifacts.Artifact.Access
import TypedArtifacts.Rendering.Level
import TypedArtifacts.Settings

namespace TypedArtifacts

namespace Artifact

def downloadLink (a : Artifact) (name : String) (index : Option Nat) (base : String) : String :=
  Settings.trimSlashes base ++ "/" ++ a.type.endpoint ++ "/v" ++ a.type.version ++ "/" ++ a.id ++ "/" ++
    name ++ "/download" ++ (match index with
      | some i => "/" ++ toString i
      | none => "")

def renderBlob (b : Blob) (link : String) : Json :=
  match b.toJson with
  | .obj fields => .obj (Dict.insert "download_link" (.str link) fields)
  | j => j

def renderBlobs (a : Artifact) (name : String) (base : String) : Option (Value Artifact) → Json
  | some (.blob b) => renderBlob b (a.downloadLink name none base)
  | some (.list vs) =>
    .arr (vs.zipIdx.filterMap fun (v, i) => v.blob?.map fun b => renderBlob b (a.downloadLink name (some i) base))
  | _ => .null

def renderTargets (render : Artifact → Json) : Option (Value Artifact) → Json
  | some (.artifact a) => render a
  | some (.list vs) => .arr ((vs.filterMap (·.artifact?)).map render)
  | _ => .null

def renderProperties (a : Artifact) : List (String × Json) :=
  (a.fieldsOf .property).map fun (name, f) => (name, .ofOption Value.toJson f.value?)

def headerFields (a : Artifact) : List (String × Json) :=
  a.toFields Instant.micros ++ [("type_name", .str a.type.name), ("type_version", .str a.type.version)]

def render (level : ShowLevel) (base : String) (a : Artifact) : Json :=
  let target (a : Artifact) : Json :=
    match _h : level.nested with
    | some inner => render inner base a
    | none => .str a.id
  .record (a.headerFields ++ (if ShowLevel.basic.rank ≤ level.rank then a.renderProperties else []) ++
    ((a.fieldsOf .dependency).map fun (name, f) => (name, renderTargets target f.value?)) ++
    ((a.fieldsOf .blob).map fun (name, f) => (name, a.renderBlobs name base f.value?)))
  termination_by level.rank
  decreasing_by exact ShowLevel.rank_nested ‹_›

end Artifact

end TypedArtifacts
