import TypedArtifacts.Bag
import TypedArtifacts.Definition

/-!
The leaves of a property: every value that is stored on its own, under the keys that lead to it.
-/

namespace TypedArtifacts

variable {ρ : Type}

def BagValue.null (t : StoredType) : BagValue :=
  ⟨t, .null⟩

def BagValue.emptyDict : BagValue :=
  ⟨.dict, .obj []⟩

def typedItem (t : StoredType) (j : Json) : Json :=
  .record [("type", .str t.name), ("value", j)]

namespace Definition

def keyUnder (key name : String) : String :=
  key ++ "." ++ name

section

variable [Referent ρ]

mutual

/-- Items of a list carry their stored types; one without a stored type is left out. -/
def storedJson : Value ρ → Definition ρ → Json
  | .list items, d => .arr (storedItems items d 0)
  | v, _ => v.toJson

def storedItems : List (Value ρ) → Definition ρ → Nat → List Json
  | [], _, _ => []
  | v :: vs, d, i =>
    match d.itemAt? i with
    | none => storedItems vs d (i + 1)
    | some item =>
      match item.storedType? with
      | none => storedItems vs d (i + 1)
      | some t => typedItem t (storedJson v item) :: storedItems vs d (i + 1)

end

def emptyMark (key : String) : Option (List (String × Value ρ)) → List (String × BagValue)
  | some [] => [(key, .emptyDict)]
  | _ => []

def leaf (d : Definition ρ) (key : String) (v : Option (Value ρ)) (declared : Bool) :
    List (String × BagValue) :=
  match d.storedType?, v with
  | some t, some v => [(key, ⟨t, storedJson v d⟩)]
  | some t, none => if declared then [(key, .null t)] else []
  | none, _ => []

mutual

def leaves : Definition ρ → String → Option (Value ρ) → Bool → List (String × BagValue)
  | ⟨_, .dict value⟩, key, v, _ =>
    let entries := v.bind (·.dict?)
    emptyMark key entries ++
      (entries.getD []).flatMap fun (name, v) => leaves value (keyUnder key name) (some v) false
  | ⟨_, .composite keys⟩, key, v, _ =>
    let entries := v.bind (·.dict?)
    emptyMark key entries ++ declaredLeaves keys key (entries.getD [])
  | d, key, v, declared => leaf d key v declared

def declaredLeaves : List (String × Definition ρ) → String → List (String × Value ρ) →
    List (String × BagValue)
  | [], _, _ => []
  | (name, d) :: rest, key, entries =>
    leaves d (keyUnder key name) (entries.lookup name) true ++ declaredLeaves rest key entries

end

end

end Definition

end TypedArtifacts
