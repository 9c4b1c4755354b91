import TypedArtifacts.Json.Fields
import TypedArtifacts.Toml.Line

namespace TypedArtifacts.Toml

structure Document where
  fields : Fields := []
  place : List String := []

def Document.add (d : Document) : Line → Option Document
  | .table path key => do
    return ⟨← Node.descend (Node.openTable key) path d.fields, path ++ [key]⟩
  | .item path key => do
    return ⟨← Node.descend (Node.openItem key) path d.fields, path ++ [key]⟩
  | .entry path key value => do
    return { d with fields := ← Node.descend (Node.assign key (.closed value) path) d.place d.fields }

def skipMark : List Char → List Char
  | '\uFEFF' :: rest => rest
  | cs => cs

def parse? (text : String) : Option Json := do
  let cs := skipMark text.toList
  let d ← (← readLines? (cs.length + 1) cs).foldlM Document.add {}
  return .obj (Node.toFields d.fields)

def isEmptyCollection : Json → Bool
  | .obj [] => true
  | .arr [] => true
  | _ => false

def conventions : Json.Conventions :=
  ⟨true, isEmptyCollection⟩

end TypedArtifacts.Toml
