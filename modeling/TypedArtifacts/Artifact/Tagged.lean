import TypedArtifacts.ArtifactType

namespace TypedArtifacts

def TypeHeader.label (t : TypeHeader) : String :=
  t.name ++ "@" ++ t.version

namespace Json

def tag (kind : String) (j : Json) : Json :=
  obj [(kind, j)]

def taggedNumber : Binary64 → Json
  | .nan => str "NaN"
  | .infinite negative => str (if negative then "-inf" else "inf")
  | x => float x

def taggedNumber? : Json → Option Binary64
  | str "NaN" => some .nan
  | str "inf" => some (.infinite false)
  | str "-inf" => some (.infinite true)
  | j => j.number?

end Json

namespace Artifact

mutual

def taggedValue : Value Artifact → Json
  | .string s => .tag "s" (.str s)
  | .text s => .tag "t" (.str s)
  | .integer n => .tag "i" (.int n.toInt)
  | .numeric x => .tag "n" (.taggedNumber x)
  | .boolean b => .tag "b" (.bool b)
  | .instant t => .tag "d" (.str t.micros)
  | .list vs => .tag "l" (.arr (taggedItems vs))
  | .dict es => .tag "m" (.obj (taggedEntries es))
  | .blob b => .tag "blob" b.toJson
  | .artifact a => .tag "a" (tagged a)
  termination_by structural x => x

def taggedItems : List (Value Artifact) → List Json
  | [] => []
  | v :: vs => taggedValue v :: taggedItems vs
  termination_by structural x => x

def taggedEntries : List (String × Value Artifact) → List (String × Json)
  | [] => []
  | (k, v) :: es => (k, taggedValue v) :: taggedEntries es
  termination_by structural x => x

def tagged : Artifact → Json
  | ⟨header, type, fields⟩ =>
    .record [("id", .str header.id), ("type", .str type.label), ("state", .str header.state.name),
      ("values", .obj (taggedFields fields))]
  termination_by structural x => x

def taggedFields : List (String × Field Artifact) → List (String × Json)
  | [] => []
  | (name, f) :: fields => (taggedField f).map (fun j => (name, j)) ++ taggedFields fields
  termination_by structural x => x

def taggedField : Field Artifact → List Json
  | ⟨_, some v, _⟩ => [taggedValue v]
  | ⟨⟨⟨_, _, _, _, _, _, some v, _, _⟩, _⟩, none, _⟩ => [taggedValue v]
  | ⟨⟨⟨_, _, _, _, _, _, none, _, _⟩, _⟩, none, _⟩ => []
  termination_by structural x => x

end

def taggedValues (a : Artifact) : Json :=
  .obj (taggedFields a.fields)

end Artifact

inductive ReadError where
  | malformed
  | unknownArtifact (name : String)
  | schema (e : SchemaError)

structure Naming where
  artifacts : List (String × Artifact) := []
  now : Instant

namespace ReadError

def require {α : Type} : Option α → Except ReadError α
  | some a => .ok a
  | none => .error malformed

end ReadError

namespace Naming

open ReadError

variable [Predicates Artifact]

def artifact (n : Naming) (name : String) : Except ReadError Artifact :=
  match n.artifacts.lookup name with
  | some a => .ok a
  | none => .error (.unknownArtifact name)

def bareArtifact (n : Naming) (fields : List (String × Json)) : Except ReadError Artifact := do
  let text (key : String) := require ((fields.lookup key).bind (·.str?))
  let d : Descriptor := { name := ← text "type", version := ← text "version" }
  let t ← d.declare.mapError .schema
  return .blank t (← text "id") n.now

def scalar (n : Naming) (kind : String) (j : Json) : Except ReadError (Value Artifact) :=
  match kind with
  | "s" => return .string (← require j.str?)
  | "t" => return .text (← require j.str?)
  | "i" => return .integer (Int64.ofInt (← require j.int64?))
  | "n" => return .numeric (← require j.taggedNumber?)
  | "b" => return .boolean (← require j.bool?)
  | "d" => return .instant (← require (j.str?.bind Instant.parse?))
  | "a" => do return .artifact (← n.artifact (← require j.str?))
  | _ => .error malformed

mutual

def value (n : Naming) : Json → Except ReadError (Value Artifact)
  | .obj [(kind, j)] => n.ofKind kind j
  | _ => .error malformed

def ofKind (n : Naming) (kind : String) : Json → Except ReadError (Value Artifact)
  | .arr items => if kind = "l" then do return .list (← n.values items) else .error malformed
  | .obj fields =>
    match kind with
    | "m" => do return .dict (← n.entries fields)
    | "blob" => do return .blob (← require (Blob.ofJson? (.obj fields)))
    | "a" => do return .artifact (← n.bareArtifact fields)
    | _ => .error malformed
  | j => n.scalar kind j

def values (n : Naming) : List Json → Except ReadError (List (Value Artifact))
  | [] => .ok []
  | j :: js => do
    let v ← n.value j
    return v :: (← n.values js)

def entries (n : Naming) : List (String × Json) → Except ReadError (List (String × Value Artifact))
  | [] => .ok []
  | (k, j) :: fields => do
    let v ← n.value j
    return (k, v) :: (← n.entries fields)

end

def valueOrNull (n : Naming) : Json → Except ReadError (Option (Value Artifact))
  | .null => .ok none
  | j => (n.value j).map some

end Naming

end TypedArtifacts
