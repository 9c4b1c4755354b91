import TypedArtifacts.Json
import TypedArtifacts.Decimal.Style

namespace TypedArtifacts.Json

def numberStyle : NumberStyle where
  tie := .even
  positional := some (-4, 16)
  wholeFraction := true
  nan := "null"
  infinity := "null"

def hexDigit (n : Nat) : Char :=
  (Nat.digitChar (n % 16))

def escapeChar (c : Char) : List Char :=
  if c = '"' then ['\\', '"']
  else if c = '\\' then ['\\', '\\']
  else if c = '\x08' then ['\\', 'b']
  else if c = '\x0c' then ['\\', 'f']
  else if c = '\n' then ['\\', 'n']
  else if c = '\r' then ['\\', 'r']
  else if c = '\t' then ['\\', 't']
  else if c.toNat < 32 then ['\\', 'u', '0', '0', hexDigit (c.toNat / 16), hexDigit c.toNat]
  else [c]

def quoted (s : String) : List Char :=
  '"' :: (s.toList.flatMap escapeChar ++ ['"'])

mutual

def write : Json → List Char → List Char
  | null, rest => "null".toList ++ rest
  | bool true, rest => "true".toList ++ rest
  | bool false, rest => "false".toList ++ rest
  | int n, rest => (toString n).toList ++ rest
  | float x, rest => (numberStyle.write x).toList ++ rest
  | str s, rest => quoted s ++ rest
  | arr [], rest => '[' :: ']' :: rest
  | arr (x :: xs), rest => '[' :: write x (writeItems xs rest)
  | obj [], rest => '{' :: '}' :: rest
  | obj ((k, x) :: fields), rest => '{' :: (quoted k ++ ':' :: write x (writeFields fields rest))

def writeItems : List Json → List Char → List Char
  | [], rest => ']' :: rest
  | x :: xs, rest => ',' :: write x (writeItems xs rest)

def writeFields : List (String × Json) → List Char → List Char
  | [], rest => '}' :: rest
  | (k, x) :: fields, rest => ',' :: (quoted k ++ ':' :: write x (writeFields fields rest))

end

def compact (j : Json) : String :=
  String.ofList (j.write [])

end TypedArtifacts.Json
