import TypedArtifacts.Json.Fields
import TypedArtifacts.Patch.Path

namespace TypedArtifacts

namespace Patch

inductive Verb where
  | add
  | remove
  | replace
  deriving DecidableEq

namespace Verb

def name : Verb → String
  | add => "add"
  | remove => "remove"
  | replace => "replace"

def all : List Verb :=
  [add, remove, replace]

def ofName? (text : String) : Option Verb :=
  all.find? (·.name = text)

def ofJson? (j : Json) (c : Json.Conventions := Json.strict) : Option Verb :=
  (j.constant? c).bind ofName?

theorem ofName?_name (v : Verb) : ofName? v.name = some v := by
  cases v <;> decide

end Verb

structure Operation where
  verb : Verb
  path : String
  value : Option Json

namespace Operation

def valueOf : Option Json → Option Json
  | some .null => none
  | value => value

def ofJson? : Json → Option Operation
  | .obj fields => do
    let verb ← Verb.ofJson? (← fields.lookup "op")
    let path ← (← fields.lookup "path").str?
    return ⟨verb, path, valueOf (fields.lookup "value")⟩
  | .arr [verb, path] => do return ⟨← Verb.ofJson? verb, ← path.str?, none⟩
  | .arr [verb, path, value] => do return ⟨← Verb.ofJson? verb, ← path.str?, valueOf (some value)⟩
  | _ => none

def toJson (operation : Operation) : Json :=
  .record ([("op", .str operation.verb.name), ("path", .str operation.path)] ++
    (operation.value.toList.map fun value => ("value", value)))

def listOfJson? (j : Json) : Option (List Operation) :=
  j.arr?.bind (·.mapM ofJson?)

end Operation

end Patch

end TypedArtifacts
