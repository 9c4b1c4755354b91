import TypedArtifacts.Json.Reader
import TypedArtifacts.Toml.Layout

namespace TypedArtifacts.Toml

def escaped? : Char → Option Char
  | '"' => some '"'
  | '\\' => some '\\'
  | 'b' => some '\x08'
  | 'f' => some '\x0c'
  | 'n' => some '\n'
  | 'r' => some '\r'
  | 't' => some '\t'
  | _ => none

def isScalar (n : Nat) : Bool :=
  n < 0xD800 || (0xE000 ≤ n && n < 0x110000)

def codePoint? (digits : List Char) : Option Char := do
  let n := (← digits.mapM Json.hexValue?).foldl (fun n d => n * 16 + d) 0
  if isScalar n then some (Char.ofNat n) else none

def closing? (quote : Char) : Bool → List Char → Option (List Char × List Char)
  | false, a :: rest => if a = quote then some ([], rest) else none
  | true, a :: b :: c :: d :: e :: rest =>
    if [a, b, c, d, e].all (· = quote) then some ([quote, quote], rest)
    else if [a, b, c, d].all (· = quote) then some ([quote], e :: rest)
    else if [a, b, c].all (· = quote) then some ([], d :: e :: rest)
    else none
  | true, [a, b, c, d] =>
    if [a, b, c, d].all (· = quote) then some ([quote], [])
    else if [a, b, c].all (· = quote) then some ([], [d])
    else none
  | true, [a, b, c] => if [a, b, c].all (· = quote) then some ([], []) else none
  | _, _ => none

def prepend (c : Char) : Option (List Char × List Char) → Option (List Char × List Char) :=
  Option.map fun (text, rest) => (c :: text, rest)

def readEscaped? (lines : Bool) : Bool → List Char → Option (List Char × List Char)
  | _, [] => none
  | joining, c :: rest =>
    match closing? '"' lines (c :: rest) with
    | some done => some done
    | none =>
      match c, rest with
      | '\\', 'u' :: a :: b :: c :: d :: rest => do
        prepend (← codePoint? [a, b, c, d]) (readEscaped? lines false rest)
      | '\\', 'U' :: a :: b :: c :: d :: e :: f :: g :: h :: rest => do
        prepend (← codePoint? [a, b, c, d, e, f, g, h]) (readEscaped? lines false rest)
      | '\\', e :: rest =>
        match escaped? e with
        | some c => prepend c (readEscaped? lines false rest)
        | none =>
          if lines && (newline? (skipBlanks (e :: rest))).isSome then readEscaped? lines true (e :: rest)
          else none
      | '\r', '\n' :: rest =>
        if !lines then none
        else if joining then readEscaped? lines true rest
        else prepend '\n' (readEscaped? lines false rest)
      | '\n', rest =>
        if !lines then none
        else if joining then readEscaped? lines true rest
        else prepend '\n' (readEscaped? lines false rest)
      | c, rest =>
        if joining && isBlank c then readEscaped? lines true rest
        else if isPlain c then prepend c (readEscaped? lines false rest)
        else none

def readLiteral? (lines : Bool) : List Char → Option (List Char × List Char)
  | [] => none
  | c :: rest =>
    match closing? '\'' lines (c :: rest) with
    | some done => some done
    | none =>
      match c, rest with
      | '\r', '\n' :: rest => if lines then prepend '\n' (readLiteral? lines rest) else none
      | '\n', rest => if lines then prepend '\n' (readLiteral? lines rest) else none
      | c, rest => if isPlain c then prepend c (readLiteral? lines rest) else none

def skipFirstLine (cs : List Char) : List Char :=
  (newline? cs).getD cs

def readQuoted? : List Char → Option (List Char × List Char)
  | '"' :: '"' :: '"' :: rest => readEscaped? true false (skipFirstLine rest)
  | '"' :: rest => readEscaped? false false rest
  | '\'' :: '\'' :: '\'' :: rest => readLiteral? true (skipFirstLine rest)
  | '\'' :: rest => readLiteral? false rest
  | _ => none

structure Traits where
  controls : Bool
  backslash : Bool
  newline : Bool
  singles : Nat
  doubles : Nat

def longestRun (quote : Char) : Nat → List Char → Nat
  | n, [] => n
  | n, c :: cs => if c = quote then longestRun quote (n + 1) cs else max n (longestRun quote 0 cs)

def Traits.of (cs : List Char) : Traits where
  controls := cs.any fun c => !isPlain c && c ≠ '\n'
  backslash := cs.contains '\\'
  newline := cs.contains '\n'
  singles := longestRun '\'' 0 cs
  doubles := longestRun '"' 0 cs

inductive Form where
  | basic
  | literal
  | basicLines
  | literalLines
  deriving DecidableEq

def Form.ofTraits (t : Traits) : Form :=
  if !t.controls && !t.backslash && t.doubles = 0 && !t.newline then .basic
  else if !t.controls && t.singles = 0 && !t.newline then .literal
  else if !t.controls && !t.backslash && t.doubles ≤ 2 then .basicLines
  else if !t.controls && t.singles ≤ 2 then .literalLines
  else if t.newline then .basicLines
  else .basic

def upperHex (n : Nat) : Char :=
  (Nat.digitChar (n % 16)).toUpper

def escapeChar (lines : Bool) (c : Char) : List Char :=
  if c = '\x08' then ['\\', 'b']
  else if c = '\t' then ['\\', 't']
  else if c = '\n' then if lines then ['\n'] else ['\\', 'n']
  else if c = '\x0c' then ['\\', 'f']
  else if c = '\r' then ['\\', 'r']
  else if c = '\\' then ['\\', '\\']
  else if isPlain c then [c]
  else ['\\', 'u', '0', '0', upperHex (c.toNat / 16), upperHex c.toNat]

def escape (lines : Bool) (most : Nat) : Nat → List Char → List Char
  | _, [] => []
  | run, '"' :: cs =>
    if run < most then '"' :: escape lines most (run + 1) cs
    else '\\' :: '"' :: escape lines most 0 cs
  | _, c :: cs => escapeChar lines c ++ escape lines most 0 cs

def Form.write (form : Form) (cs : List Char) : List Char :=
  let first : List Char := if cs.contains '\n' then ['\n'] else []
  match form with
  | .basic => '"' :: escape false 0 0 cs ++ ['"']
  | .literal => '\'' :: cs ++ ['\'']
  | .basicLines => ['"', '"', '"'] ++ first ++ escape true 2 0 cs ++ ['"', '"', '"']
  | .literalLines => ['\'', '\'', '\''] ++ first ++ cs ++ ['\'', '\'', '\'']

def quoted (text : String) : String :=
  String.ofList ((Form.ofTraits (.of text.toList)).write text.toList)

def isBare (c : Char) : Bool :=
  c.isAlphanum || c = '_' || c = '-'

def Form.ofKey (t : Traits) : Form :=
  if !t.controls && !t.newline && !t.backslash && t.doubles = 0 then .basic
  else if !t.controls && !t.newline && t.singles = 0 then .literal
  else .basic

def writtenKey (key : String) : String :=
  let cs := key.toList
  if !cs.isEmpty && cs.all isBare then key
  else String.ofList ((Form.ofKey (.of cs)).write cs)

end TypedArtifacts.Toml
