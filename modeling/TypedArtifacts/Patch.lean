import TypedArtifacts.Assignment.Blobs
import TypedArtifacts.Definition.Conversion
import TypedArtifacts.Patch.Operation
import TypedArtifacts.Text.Digits

/-!
The effect of patch operations: each makes up an input for one attribute, which is then assigned
as a whole.
-/

namespace TypedArtifacts

namespace Patch

structure Target where
  path : String
  name : String
  verb : Verb
  value : Option Json

namespace Target

def fault {α : Type} (t : Target) (f : PathFault) : Except Fault α :=
  .error (.path ⟨t.path, f⟩)

def refuse {α : Type} (place : String) (v : Violation) (j : Option Json := none) : Except Fault α :=
  .error (.validation ⟨place, v, j⟩)

def givenValue (t : Target) : Except Fault Json :=
  match t.value with
  | some j => .ok j
  | none => t.fault (.valueMissing t.verb.name)

def index (t : Target) (segment : String) (size : Nat) (appending : Bool) : Except Fault Nat :=
  if segment = "-" then
    if size = 0 then t.fault (.noPosition segment)
    else .ok (if appending then size else size - 1)
  else if !segment.toList.all Char.isDigit then t.fault (.notIndex segment)
  else
    let i := Text.numeral segment.toList
    if i < size ∨ appending ∧ i = size then .ok i else t.fault (.noPosition segment)

def readItem (t : Target) (d : Definition Artifact) (i : Nat) : Except Fault (Value Artifact) := do
  let place := Definition.itemPlace t.name i
  match ← (d.fromJsonAs place (← t.givenValue)).mapError .validation with
  | some v => return v
  | none => refuse place .nullItem

def editItems (t : Target) (d : Definition Artifact) (i : Nat) (vs : List (Value Artifact)) :
    Except Fault (List (Value Artifact)) :=
  match t.verb with
  | .add => return vs.insertIdx i (← t.readItem d i)
  | .replace => return vs.set i (← t.readItem d i)
  | .remove => .ok (vs.eraseIdx i)

def readEntry (t : Target) (d : Definition Artifact) (key : String) :
    Except Fault (Option (Value Artifact)) := do
  (d.fromJsonAs (Definition.keyPlace t.name key) (← t.givenValue)).mapError .validation

def editEntry (t : Target) (d : Definition Artifact) (key : String) : Except Fault (Option (Value Artifact)) :=
  match t.verb with
  | .remove => .ok none
  | .add => t.readEntry d key
  | .replace => t.readEntry d key

def putItem (i : Nat) (vs : List (Value Artifact)) : Option (Value Artifact) → List (Value Artifact)
  | some v => vs.set i v
  | none => vs.eraseIdx i

def putEntry (key : String) (es : List (String × Value Artifact)) :
    Option (Value Artifact) → List (String × Value Artifact)
  | some v => Dict.insert key v es
  | none => Dict.erase key es

def editValue (t : Target) : List String → Definition Artifact → Option (Value Artifact) →
    Except Fault (Option (Value Artifact))
  | [], d, _ =>
    match t.verb with
    | .remove => .ok none
    | _ => do (d.fromJsonAs t.name (← t.givenValue)).mapError .validation
  | segment :: deeper, d, current =>
    match d.kind.isList, d.kind.isDict, current.or d.emptyContainer? with
    | true, _, some (.list vs) => do
      let i ← t.index segment vs.length (t.verb = .add && deeper.isEmpty)
      match d.itemAt? i with
      | none => t.fault (.noPosition segment)
      | some item =>
        if deeper.isEmpty then return some (.list (← t.editItems item i vs))
        else return some (.list (putItem i vs (← editValue t deeper item vs[i]?)))
    | _, true, some (.dict es) => do
      if !Dict.contains segment es && !(t.verb = .add && deeper.isEmpty) then t.fault (.noKey segment)
      else
        match d.valueAt? segment with
        | none => refuse t.name (.keyNotAllowed segment)
        | some part =>
          if deeper.isEmpty then return some (.dict (putEntry segment es (← t.editEntry part segment)))
          else return some (.dict (putEntry segment es (← editValue t deeper part (es.lookup segment))))
    | _, _, _ => t.fault (.noElement t.name segment)

def readId (t : Target) (j : Json) : Except Fault String :=
  match j.str? with
  | some id => .ok id
  | none => refuse t.name .notId (some j)

def readIds (t : Target) (j : Json) : Except Fault (List String) :=
  match j.arr? with
  | some items => items.mapM t.readId
  | none => refuse t.name .notIdList (some j)

def assignIds (t : Target) (isList : Bool) : Except Fault Input :=
  if t.verb = .remove then .ok (.value none)
  else do
    let j ← t.givenValue
    if j.isNull then return .value none
    else if isList then return .references (← t.readIds j)
    else return .reference (← t.readId j)

def editIds (t : Target) (i : Nat) (ids : List String) : Except Fault (List String) :=
  match t.verb with
  | .add => return ids.insertIdx i (← t.readId (← t.givenValue))
  | .replace => return ids.set i (← t.readId (← t.givenValue))
  | .remove => .ok (ids.eraseIdx i)

def editLinks (t : Target) (isList : Bool) (current : Option (Value Artifact)) :
    List String → Except Fault Input
  | [] => t.assignIds isList
  | [segment] =>
    if isList then do
      let ids := ((current.bind (·.list?)).getD []).filterMap (·.artifact?.map (·.id))
      let i ← t.index segment ids.length (t.verb = .add)
      return .references (← t.editIds i ids)
    else t.fault (.noElement t.name segment)
  | segment :: _ => t.fault (.noElement t.name segment)

def editBlobs (t : Target) (isList : Bool) (current : Option (Value Artifact)) (rest : List String) :
    Except Fault (Option (Value Artifact)) :=
  if t.verb ≠ .remove then refuse t.name .blobInPatch
  else
    match rest with
    | [] => .ok none
    | [segment] =>
      if isList then do
        let vs := (current.bind (·.list?)).getD []
        let i ← t.index segment vs.length false
        return some (.list (vs.eraseIdx i))
      else t.fault (.noElement t.name segment)
    | segment :: _ => t.fault (.noElement t.name segment)

def input (t : Target) (f : Field Artifact) (rest : List String) : Except Fault Input :=
  match f.definition.role with
  | .property => do return .value (← t.editValue rest f.definition f.value?)
  | .dependency => t.editLinks f.definition.kind.isList f.value? rest
  | .blob => do return .value (← t.editBlobs f.definition.kind.isList f.value? rest)

end Target

namespace Operation

def input (operation : Operation) (a : Artifact) : Except Fault (String × Input) := do
  match ← (Path.parse operation.path).mapError .path with
  | [] => .error (.path ⟨operation.path, .noAttributeSegment⟩)
  | name :: rest =>
    match a.field? name with
    | none => .error (.path ⟨operation.path, .noAttribute name⟩)
    | some f =>
      let t : Target := ⟨operation.path, name, operation.verb, operation.value⟩
      return (name, ← t.input f rest)

def checkAllowed (allowed : List Verb) (operation : Operation) : Except Fault Unit :=
  if allowed.contains operation.verb then .ok ()
  else .error (.path ⟨operation.path, .operationNotAllowed operation.verb.name⟩)

end Operation

end Patch

section

variable [ArtifactPredicates] [Predicates Artifact]

def Artifact.patch : List Patch.Operation → Artifact → Artifact × Except Fault Unit
  | [], a => (a, .ok ())
  | operation :: rest, a =>
    match (do
      let (name, input) ← operation.input a
      a.assign name input) with
    | .ok a => a.patch rest
    | .error e => (a, .error e)

namespace Draft

def applyOperation (l : Links) (operation : Patch.Operation) (d : Draft) : Draft × Except Fault Unit :=
  match operation.input d.artifact with
  | .ok (name, input) => d.assign l name input
  | .error e => (d, .error e)

def patch (l : Links) (allowed : List Patch.Verb) : List Patch.Operation → Draft → Draft × Except Fault Unit
  | [], d => (d, .ok ())
  | operation :: rest, d =>
    match operation.checkAllowed allowed with
    | .error e => (d, .error e)
    | .ok _ =>
      match d.applyOperation l operation with
      | (d, .ok _) => d.patch l allowed rest
      | (d, .error e) => (d, .error e)

end Draft

end

end TypedArtifacts
