import TypedArtifacts.Bag
import TypedArtifacts.Definition
import TypedArtifacts.Json.Fields

/-!
Putting the leaves of a property together again, as the plain JSON of its value.
-/

namespace TypedArtifacts

namespace BagValue

mutual

def plain (t : Option StoredType) : Json → Json
  | .arr items => if t = some .array then .arr (plainItems items) else .arr items
  | j => j

def plainItems : List Json → List Json
  | [] => []
  | .obj fields :: items =>
    plainValue (((fields.lookup "type").bind (·.constant?)).bind StoredType.ofName?) fields :: plainItems items
  | _ :: items => .null :: plainItems items

def plainValue (t : Option StoredType) : List (String × Json) → Json
  | [] => .null
  | (key, j) :: fields => if key = "value" then plain t j else plainValue t fields

end

end BagValue

structure Group where
  marked : Bool := false
  leaves : List (String × BagValue) := []

structure Placed where
  key : String
  deeper : Option String
  value : BagValue

def cutAtDot (text : String) : String × Option String :=
  let cs := text.toList
  (String.ofList (cs.takeWhile (· ≠ '.')), (cs.dropWhile (· ≠ '.')).tail?.map String.ofList)

namespace Group

def addLeaf (key : String) (leaf : String × BagValue) (groups : List (String × Group)) :
    List (String × Group) :=
  let g := (groups.lookup key).getD {}
  Dict.insert key { g with leaves := g.leaves ++ [leaf] } groups

def mark (key : String) (groups : List (String × Group)) : List (String × Group) :=
  Dict.insert key { (groups.lookup key).getD {} with marked := true } groups

def nested : List Placed → List (String × Group) → List (String × Group)
  | [], groups => groups
  | ⟨key, some deeper, v⟩ :: rest, groups => nested rest (addLeaf key (deeper, v) groups)
  | ⟨key, none, v⟩ :: rest, groups =>
    nested rest (if v.type = .dict then mark key groups else groups)

def direct : List Placed → List (String × Json)
  | [] => []
  | ⟨key, none, v⟩ :: rest =>
    if v.type = .dict || v.value.isNull then direct rest
    else (key, BagValue.plain (some v.type) v.value) :: direct rest
  | _ :: rest => direct rest

def close (marked : Bool) (fields : List (String × Json)) : Json :=
  if fields.isEmpty && !marked then .null else .obj fields

def present (key : String) : Json → List (String × Json)
  | .null => []
  | j => [(key, j)]

end Group

namespace Definition

variable {ρ : Type}

def declaredCut (keys : List (String × Definition ρ)) (text : String) : String × Option String :=
  match keys.find? fun (key, _) => (key.toList ++ ['.']).isPrefixOf text.toList with
  | some (key, _) => (key, some (String.ofList (text.toList.drop (key.length + 1))))
  | none => (text, none)

def placeLeaves (cut : String → String × Option String) (leaves : List (String × BagValue)) : List Placed :=
  leaves.map fun (text, v) => ⟨(cut text).1, (cut text).2, v⟩

mutual

def gather : Definition ρ → Group → Json
  | ⟨_, kind⟩, g => gatherKind kind g

def gatherKind : Kind (Definition ρ) → Group → Json
  | .dict value, g =>
    let placed := placeLeaves (fun text => if value.kind.isDict then cutAtDot text else (text, none)) g.leaves
    let deeper := (Group.nested placed []).flatMap fun (key, g) => Group.present key (gather value g)
    Group.close g.marked (Dict.update (Dict.ofList (Group.direct placed)) deeper)
  | .composite keys, g =>
    let placed := placeLeaves (declaredCut keys) g.leaves
    let deeper := (Group.nested placed []).flatMap fun (key, g) => Group.present key (gatherKey keys key g)
    Group.close g.marked (Dict.update (Dict.ofList (Group.direct placed)) deeper)
  | _, g =>
    Group.close g.marked (Dict.ofList (Group.direct (placeLeaves (fun text => (text, none)) g.leaves)))

def gatherKey : List (String × Definition ρ) → String → Group → Json
  | [], _, _ => .null
  | (k, d) :: rest, key, g => if k = key then gather d g else gatherKey rest key g

end

end Definition

structure Leaves where
  own : Option BagValue := none
  dotted : List (String × BagValue) := []

namespace Leaves

def add (key : String) (v : BagValue) (groups : List (String × Leaves)) : List (String × Leaves) :=
  match cutAtDot key with
  | (name, some rest) =>
    let g := (groups.lookup name).getD {}
    Dict.insert name { g with dotted := g.dotted ++ [(rest, v)] } groups
  | (name, none) => Dict.insert name { (groups.lookup name).getD {} with own := some v } groups

def ofProperties (properties : List (String × BagValue)) : List (String × Leaves) :=
  properties.foldl (fun groups (key, v) => add key v groups) []

def isMark (v : Option BagValue) : Bool :=
  v.any (·.type = .dict)

def toJson {ρ : Type} (d : Definition ρ) (l : Leaves) : Json :=
  match l.own with
  | some v =>
    if v.type ≠ .dict && l.dotted.isEmpty then BagValue.plain (some v.type) v.value
    else d.gather ⟨isMark l.own, l.dotted⟩
  | none => d.gather ⟨false, l.dotted⟩

end Leaves

end TypedArtifacts
