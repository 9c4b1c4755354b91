import TypedArtifacts.Blob
import TypedArtifacts.Instant.Rfc3339
import TypedArtifacts.Json.Printer

namespace TypedArtifacts

inductive Value (ρ : Type) where
  | string (s : String)
  | text (s : String)
  | integer (n : Int64)
  | numeric (x : Binary64)
  | boolean (b : Bool)
  | instant (t : Instant)
  | list (items : List (Value ρ))
  | dict (entries : List (String × Value ρ))
  | blob (b : Blob)
  | artifact (a : ρ)

class Referent (ρ : Type) where
  id : ρ → String
  typeName : ρ → String
  typeVersion : ρ → String
  equal : Value ρ → Value ρ → Bool

namespace Value

variable {ρ : Type}

def kindName : Value ρ → String
  | string _ => "string"
  | text _ => "text"
  | integer _ => "integer"
  | numeric _ => "numeric"
  | boolean _ => "boolean"
  | instant _ => "datetime"
  | list _ => "list"
  | dict _ => "dict"
  | blob _ => "blob"
  | artifact _ => "artifact"

def text? : Value ρ → Option String
  | string s => some s
  | text s => some s
  | _ => none

def integer? : Value ρ → Option Int64
  | integer n => some n
  | _ => none

def number? : Value ρ → Option Binary64
  | integer n => some (Binary64.ofInt n.toInt)
  | numeric x => some x
  | _ => none

def boolean? : Value ρ → Option Bool
  | boolean b => some b
  | _ => none

def list? : Value ρ → Option (List (Value ρ))
  | list items => some items
  | _ => none

def dict? : Value ρ → Option (List (String × Value ρ))
  | dict entries => some entries
  | _ => none

def blob? : Value ρ → Option Blob
  | blob b => some b
  | _ => none

def artifact? : Value ρ → Option ρ
  | artifact a => some a
  | _ => none

def size? : Value ρ → Option Nat
  | string s => some s.length
  | text s => some s.length
  | list items => some items.length
  | dict entries => some entries.length
  | _ => none

section

variable [Referent ρ]

mutual

def toJson : Value ρ → Json
  | string s => .str s
  | text s => .str s
  | integer n => .int n.toInt
  | numeric x => .ofFloat x
  | boolean b => .bool b
  | instant t => .str t.micros
  | list items => .arr (itemsToJson items)
  | dict entries => .obj (entriesToJson entries)
  | blob b => b.toJson
  | artifact a => .str (Referent.id a)

def itemsToJson : List (Value ρ) → List Json
  | [] => []
  | v :: vs => v.toJson :: itemsToJson vs

def entriesToJson : List (String × Value ρ) → List (String × Json)
  | [] => []
  | (k, v) :: rest => (k, v.toJson) :: entriesToJson rest

end

def display (v : Value ρ) : String :=
  v.toJson.compact

end

end Value

inductive StoredType where
  | string
  | text
  | int
  | numeric
  | bool
  | datetime
  | array
  | dict
  deriving DecidableEq

namespace StoredType

def name : StoredType → String
  | string => "string"
  | text => "text"
  | int => "int"
  | numeric => "numeric"
  | bool => "bool"
  | datetime => "datetime"
  | array => "array"
  | dict => "dict"

def all : List StoredType :=
  [string, text, int, numeric, bool, datetime, array, dict]

def ofName? (text : String) : Option StoredType :=
  all.find? (·.name = text)

theorem ofName?_name (t : StoredType) : ofName? t.name = some t := by
  cases t <;> decide

end StoredType

end TypedArtifacts
