import TypedArtifacts.Toml.Quoted

namespace TypedArtifacts.Toml

inductive Cell where
  | nat (n : Nat)
  | bool (b : Bool)
  | text (s : String)
  | texts (items : List String)
  deriving DecidableEq

def Cell.written : Cell → String
  | nat n => toString n
  | bool true => "true"
  | bool false => "false"
  | text s => quoted s
  | texts [] => "[]"
  | texts [s] => "[" ++ quoted s ++ "]"
  | texts items => "[\n" ++ String.join (items.map fun s => "    " ++ quoted s ++ ",\n") ++ "]"

structure Table where
  path : List String
  entries : List (String × Cell)
  deriving DecidableEq

namespace Table

def header (t : Table) : String :=
  if t.path.isEmpty then "" else "[" ++ ".".intercalate (t.path.map writtenKey) ++ "]\n"

def written (t : Table) : String :=
  t.header ++ String.join (t.entries.map fun (key, cell) => writtenKey key ++ " = " ++ cell.written ++ "\n")

end Table

def write (tables : List Table) : String :=
  "\n".intercalate (tables.map (·.written))

end TypedArtifacts.Toml
