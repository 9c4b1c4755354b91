import TypedArtifacts.Artifact.Tagged

namespace TypedArtifacts.Naming

open ReadError

variable [Predicates Artifact]

def limit (name : String) (j : Json) : Except ReadError Limit :=
  match name with
  | "max_length" => return .maxLength (← require j.nat64?)
  | "min_length" => return .minLength (← require j.nat64?)
  | "min_size" => return .minSize (← require j.nat64?)
  | "max_size" => return .maxSize (← require j.nat64?)
  | "min_keys" => return .minKeys (← require j.nat64?)
  | "max_keys" => return .maxKeys (← require j.nat64?)
  | "min_blob_size" => return .minBlobSize (← require j.nat64?)
  | "max_blob_size" => return .maxBlobSize (← require j.nat64?)
  | "min_locations" => return .minLocations (← require j.nat64?)
  | "max_locations" => return .maxLocations (← require j.nat64?)
  | "min_value" => return .minValue (← require j.taggedNumber?)
  | "max_value" => return .maxValue (← require j.taggedNumber?)
  | "references" => return .referenceTypes (← require (j.arr?.bind (·.mapM (·.str?))))
  | "reference_version" => return .referenceVersion (← require j.str?)
  | _ => .error malformed

def facet (n : Naming) : List Json → Except ReadError (Facet Artifact)
  | [.str "required"] => .ok .required
  | [.str "optional"] => .ok .optional
  | [.str "readonly"] => .ok .readonly
  | [.str "immutable"] => .ok .immutable
  | [.str "mutable"] => .ok .mutable
  | [.str "unique"] => .ok (.limit .unique)
  | [.str "display_name", .str s] => .ok (.displayName s)
  | [.str "description", .str s] => .ok (.description s)
  | [.str "pattern", .str s] => .ok (.pattern s)
  | [.str "default", j] => return .default (← n.value j)
  | [.str "allowed_values", .arr js] => return .allowedValues (← n.values js)
  | [.str "validator", .str slot, .str message, .str predicate] => .ok (.validator slot message predicate)
  | [.str name, j] => return .limit (← limit name j)
  | _ => .error malformed

def applyFacet (n : Naming) (d : Definition Artifact) (j : Json) : Except ReadError (Definition Artifact) := do
  match ← require j.arr? with
  | [.str "name", .str s] => (d.assignName s).mapError .schema
  | parts => return d.apply (← n.facet parts)

structure Parts where
  item : Option (Definition Artifact) := none
  value : Option (Definition Artifact) := none
  items : List (Definition Artifact) := []
  keys : List (String × Definition Artifact) := []

def ofParts (kind : String) (p : Parts) : Except ReadError (Definition Artifact) :=
  match kind with
  | "string" => .ok (.scalar .string)
  | "text" => .ok (.scalar .text)
  | "integer" => .ok (.scalar .integer)
  | "numeric" => .ok (.scalar .numeric)
  | "boolean" => .ok (.scalar .boolean)
  | "datetime" => .ok (.scalar .datetime)
  | "relation" => .ok .relation
  | "relation_list" => .ok (.list .relation)
  | "blob" => .ok .blob
  | "blob_list" => .ok (.list .blob)
  | "list" => return .list (← require p.item)
  | "tuple" => .ok (.tuple p.items)
  | "dict" => return .dict (← require p.value)
  | "composite" => .ok (.composite p.keys)
  | _ => .error malformed

mutual

def definition (n : Naming) : Json → Except ReadError (Definition Artifact)
  | .obj fields => do
    let d ← ofParts (← require ((fields.lookup "kind").bind (·.str?))) (← n.parts fields)
    let facets := ((fields.lookup "facets").bind (·.arr?)).getD []
    facets.foldlM n.applyFacet d
  | _ => .error malformed

def parts (n : Naming) : List (String × Json) → Except ReadError Parts
  | [] => .ok {}
  | (key, j) :: fields => do
    let p ← n.parts fields
    match key with
    | "item" => return { p with item := some (← n.definition j) }
    | "value" => return { p with value := some (← n.definition j) }
    | "items" => return { p with items := ← n.definitions j }
    | "keys" => return { p with keys := ← n.keyed j }
    | _ => return p

def definitions (n : Naming) : Json → Except ReadError (List (Definition Artifact))
  | .arr items => n.definitionList items
  | _ => .error malformed

def definitionList (n : Naming) : List Json → Except ReadError (List (Definition Artifact))
  | [] => .ok []
  | j :: js => do
    let d ← n.definition j
    return d :: (← n.definitionList js)

def keyed (n : Naming) : Json → Except ReadError (List (String × Definition Artifact))
  | .arr pairs => n.pairList pairs
  | _ => .error malformed

def pairList (n : Naming) : List Json → Except ReadError (List (String × Definition Artifact))
  | [] => .ok []
  | .arr [.str key, j] :: pairs => do
    let d ← n.definition j
    return (key, d) :: (← n.pairList pairs)
  | _ => .error malformed

end

def mutability : Json → Except ReadError Mutability
  | .obj [("until", .str flag)] => .ok (.untilFlagSet flag)
  | .obj [("while", .str state)] => return .whileState (← require (Lifecycle.ofName? state))
  | .obj [("when", .str predicate)] => .ok (.custom predicate)
  | _ => .error malformed

def given {α : Type} (read : Json → Except ReadError α) : Option Json → Except ReadError (Option α)
  | none => .ok none
  | some .null => .ok none
  | some j => (read j).map some

def descriptor (n : Naming) (types : List (String × ArtifactType)) (j : Json) : Except ReadError Descriptor := do
  let text (key : String) := (j.get? key).bind (·.str?)
  let attributes ← n.keyed (← require (j.get? "attributes"))
  let parent ← given (fun p => require (p.str?.bind fun name => types.lookup name)) (j.get? "extends")
  let rule ← given mutability (j.get? "mutability")
  return {
    name := ← require (text "name")
    version := ← require (text "version")
    displayName := text "display_name"
    description := text "description"
    endpoint := text "endpoint"
    parent := parent
    attributes := attributes
    mutability := rule }

end TypedArtifacts.Naming
