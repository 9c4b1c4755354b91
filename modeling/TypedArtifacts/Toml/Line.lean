import TypedArtifacts.Toml.Scalar
import TypedArtifacts.Toml.Tree

namespace TypedArtifacts.Toml

inductive Line where
  | table (path : List String) (key : String)
  | item (path : List String) (key : String)
  | entry (path : List String) (key : String) (value : Json)

def readKeyPart? : List Char → Option (String × List Char)
  | '"' :: rest => (readEscaped? false false rest).map fun (text, rest) => (String.ofList text, rest)
  | '\'' :: rest => (readLiteral? false rest).map fun (text, rest) => (String.ofList text, rest)
  | cs =>
    let text := cs.takeWhile isBare
    if text.isEmpty then none else some (String.ofList text, cs.dropWhile isBare)

def readKey? : Nat → List Char → Option (List String × String × List Char)
  | 0, _ => none
  | most + 1, cs => do
    let (part, rest) ← readKeyPart? (skipBlanks cs)
    match skipBlanks rest with
    | '.' :: rest =>
      let (path, key, rest) ← readKey? most rest
      return (part :: path, key, rest)
    | rest => return ([], part, rest)

def deepest : Nat := 79

def readItems? (value : List Char → Option (Json × List Char)) :
    Nat → List Char → Option (List Json × List Char)
  | 0, _ => none
  | fuel + 1, cs => do
    match ← skipLines? false cs with
    | ']' :: rest => return ([], rest)
    | cs =>
      let (x, rest) ← value cs
      match ← skipLines? false rest with
      | ',' :: rest =>
        let (xs, rest) ← readItems? value fuel rest
        return (x :: xs, rest)
      | ']' :: rest => return ([x], rest)
      | _ => none

def readEntry? (value : List Char → Option (Json × List Char)) (cs : List Char) :
    Option (List String × String × Json × List Char) := do
  let (path, key, rest) ← readKey? deepest cs
  match rest with
  | '=' :: rest =>
    let (x, rest) ← value (skipBlanks rest)
    return (path, key, x, rest)
  | _ => none

def readFields? (value : List Char → Option (Json × List Char)) :
    Nat → List (String × Node) → List Char → Option (List (String × Node) × List Char)
  | 0, _, _ => none
  | fuel + 1, fields, cs => do
    let (path, key, x, rest) ← readEntry? value cs
    let fields ← Node.assign key (.closed x) path fields
    match skipBlanks rest with
    | ',' :: rest => readFields? value fuel fields rest
    | '}' :: rest => return (fields, rest)
    | _ => none

def readValue? : Nat → List Char → Option (Json × List Char)
  | depth + 1, '[' :: rest =>
    (readItems? (readValue? depth) (rest.length + 1) rest).map fun (items, rest) => (.arr items, rest)
  | depth + 1, '{' :: rest =>
    match skipBlanks rest with
    | '}' :: rest => some (.obj [], rest)
    | rest =>
      (readFields? (readValue? depth) (rest.length + 1) [] rest).map fun (fields, rest) =>
        (.obj (Node.toFields fields), rest)
  | _, cs => readScalar? cs

def readHeader? (cs : List Char) : Option (Line × List Char) :=
  match cs with
  | '[' :: '[' :: rest => do
    let (path, key, rest) ← readKey? deepest rest
    match rest with
    | ']' :: ']' :: rest => return (.item path key, rest)
    | _ => none
  | '[' :: rest => do
    let (path, key, rest) ← readKey? deepest rest
    match rest with
    | ']' :: rest => return (.table path key, rest)
    | _ => none
  | _ => do
    let (path, key, x, rest) ← readEntry? (readValue? deepest) cs
    return (.entry path key x, rest)

def readLines? : Nat → List Char → Option (List Line)
  | 0, _ => none
  | fuel + 1, cs => do
    match ← skipLines? false cs with
    | [] => return []
    | cs =>
      let (line, rest) ← readHeader? cs
      return line :: (← readLines? fuel (← lineEnd? rest))

end TypedArtifacts.Toml
