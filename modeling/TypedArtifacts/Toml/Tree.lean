import TypedArtifacts.Json

/-!
The tables of a TOML document while it is read. Each may be defined only once, and whole values are closed.
-/

namespace TypedArtifacts.Toml

inductive Node where
  | closed (value : Json)
  | table (isImplicit isDotted : Bool) (fields : List (String × Node))
  | items (done : List Json) (fields : List (String × Node))

abbrev Fields := List (String × Node)

namespace Node

mutual

def toJson : Node → Json
  | closed value => value
  | table _ _ fields => .obj (toFields fields)
  | items done fields => .arr (done ++ [.obj (toFields fields)])

def toFields : List (String × Node) → List (String × Json)
  | [] => []
  | (key, node) :: fields => (key, node.toJson) :: toFields fields

end

def assign (key : String) (value : Node) : List String → Fields → Option Fields
  | [], fields => if Dict.contains key fields then none else some (Dict.insert key value fields)
  | part :: path, fields =>
    match fields.lookup part with
    | none => (assign key value path []).map fun sub => Dict.insert part (table true true sub) fields
    | some (table true isDotted sub) =>
      if path.isEmpty && !isDotted then none
      else (assign key value path sub).map fun sub => Dict.insert part (table true isDotted sub) fields
    | some (items done sub) =>
      if path.isEmpty then none
      else (assign key value path sub).map fun sub => Dict.insert part (items done sub) fields
    | some _ => none

def descend (change : Fields → Option Fields) : List String → Fields → Option Fields
  | [], fields => change fields
  | part :: path, fields =>
    match fields.lookup part with
    | none => (descend change path []).map fun sub => Dict.insert part (table true false sub) fields
    | some (table isImplicit isDotted sub) =>
      (descend change path sub).map fun sub => Dict.insert part (table isImplicit isDotted sub) fields
    | some (items done sub) =>
      (descend change path sub).map fun sub => Dict.insert part (items done sub) fields
    | some (closed _) => none

def openTable (key : String) (fields : Fields) : Option Fields :=
  match fields.lookup key with
  | none => some (Dict.insert key (table false false []) fields)
  | some (table true false sub) => some (Dict.insert key (table false false sub) fields)
  | some _ => none

def openItem (key : String) (fields : Fields) : Option Fields :=
  match fields.lookup key with
  | none => some (Dict.insert key (items [] []) fields)
  | some (items done sub) => some (Dict.insert key (items (done ++ [.obj (toFields sub)]) []) fields)
  | some _ => none

end Node

end TypedArtifacts.Toml
