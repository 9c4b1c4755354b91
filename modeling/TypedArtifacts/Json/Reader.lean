import TypedArtifacts.Json

namespace TypedArtifacts.Json

def isBlank (c : Char) : Bool :=
  c = ' ' || c = '\n' || c = '\t' || c = '\r'

def skipBlanks (cs : List Char) : List Char :=
  cs.dropWhile isBlank

def hexValue? (c : Char) : Option Nat :=
  if c.isDigit then some (c.toNat - '0'.toNat)
  else if 'a' ≤ c ∧ c ≤ 'f' then some (c.toNat - 'a'.toNat + 10)
  else if 'A' ≤ c ∧ c ≤ 'F' then some (c.toNat - 'A'.toNat + 10)
  else none

def hexUnit? (a b c d : Char) : Option Nat := do
  return 4096 * (← hexValue? a) + 256 * (← hexValue? b) + 16 * (← hexValue? c) + (← hexValue? d)

def escaped? : Char → Option Char
  | '"' => some '"'
  | '\\' => some '\\'
  | '/' => some '/'
  | 'b' => some '\x08'
  | 'f' => some '\x0c'
  | 'n' => some '\n'
  | 'r' => some '\r'
  | 't' => some '\t'
  | _ => none

def isHighSurrogate (u : Nat) : Bool :=
  0xD800 ≤ u && u < 0xDC00

def isLowSurrogate (u : Nat) : Bool :=
  0xDC00 ≤ u && u < 0xE000

def readChars : List Char → List Char → Option (List Char × List Char)
  | _, [] => none
  | done, '"' :: rest => some (done.reverse, rest)
  | done, '\\' :: 'u' :: a :: b :: c :: d :: '\\' :: 'u' :: e :: f :: g :: h :: rest => do
    let u ← hexUnit? a b c d
    let v ← hexUnit? e f g h
    if isHighSurrogate u then
      if isLowSurrogate v then
        readChars (Char.ofNat (0x10000 + (u - 0xD800) * 1024 + (v - 0xDC00)) :: done) rest
      else none
    else if isLowSurrogate u then none
    else readChars (Char.ofNat u :: done) ('\\' :: 'u' :: e :: f :: g :: h :: rest)
  | done, '\\' :: 'u' :: a :: b :: c :: d :: rest => do
    let u ← hexUnit? a b c d
    if isHighSurrogate u || isLowSurrogate u then none else readChars (Char.ofNat u :: done) rest
  | done, '\\' :: c :: rest => do readChars ((← escaped? c) :: done) rest
  | done, c :: rest => if c.toNat < 32 then none else readChars (c :: done) rest

def digitValue (c : Char) : Nat :=
  c.toNat - '0'.toNat

def readDigits : Nat → Nat → List Char → Nat × Nat
  | m, dropped, [] => (m, dropped)
  | m, dropped, c :: cs =>
    if dropped = 0 ∧ m * 10 + digitValue c < UInt64.size then readDigits (m * 10 + digitValue c) 0 cs
    else readDigits m (dropped + 1) cs

/-- A significand times a power of ten in two roundings: the significand first, the scaling then.
Numbers out of range are refused. -/
def scaled? (negative : Bool) (m : Nat) (e : Int) : Option Binary64 :=
  let f := Binary64.ofNat m
  let r :=
    if m = 0 then some f
    else if 0 ≤ e then if e ≤ 308 then some (f.mul (Binary64.ofNat (Nat.pow 10 e.toNat))) else none
    else if -308 ≤ e then some (f.div (Binary64.ofNat (Nat.pow 10 (-e).toNat)))
    else if -616 ≤ e then
      some ((f.div (Binary64.ofNat (Nat.pow 10 308))).div (Binary64.ofNat (Nat.pow 10 (-308 - e).toNat)))
    else some (Binary64.zero false)
  r.bind fun x => if x.isFinite then some (if negative then x.neg else x) else none

def readExponent? : List Char → Option (Int × List Char)
  | c :: rest =>
    if c = 'e' ∨ c = 'E' then
      let (negative, rest) :=
        match rest with
        | '-' :: rest => (true, rest)
        | '+' :: rest => (false, rest)
        | _ => (false, rest)
      let digits := rest.takeWhile Char.isDigit
      let size : Nat := digits.foldl (fun n d => n * 10 + digitValue d) 0
      if digits.isEmpty then none
      else some (if negative then -(size : Int) else size, rest.dropWhile Char.isDigit)
    else some (0, c :: rest)
  | [] => some (0, [])

def readNumber? (negative : Bool) (cs : List Char) : Option (Json × List Char) := do
  let whole := cs.takeWhile Char.isDigit
  let rest := cs.dropWhile Char.isDigit
  if whole.isEmpty then none
  if 1 < whole.length ∧ whole.head? = some '0' then none
  let (m, dropped) := readDigits 0 0 whole
  match rest with
  | '.' :: rest =>
    let fraction := rest.takeWhile Char.isDigit
    let rest := rest.dropWhile Char.isDigit
    if fraction.isEmpty then none
    let (m, lost) := readDigits m 0 fraction
    let (e, rest) ← readExponent? rest
    let x ← scaled? negative m (dropped - (fraction.length - lost) + e)
    return (float x, rest)
  | _ =>
    let (e, rest') ← readExponent? rest
    if rest'.length < rest.length ∨ dropped ≠ 0 then
      let x ← scaled? negative m (dropped + e)
      return (float x, rest')
    else if negative then
      if 0 < m ∧ minInt64 ≤ -(m : Int) then return (int (-(m : Int)), rest)
      else return (float (Binary64.ofNat m).neg, rest)
    else return (int m, rest)

mutual

def readValue? : Nat → List Char → Option (Json × List Char)
  | 0, _ => none
  | fuel + 1, cs =>
    match skipBlanks cs with
    | 'n' :: 'u' :: 'l' :: 'l' :: rest => some (null, rest)
    | 't' :: 'r' :: 'u' :: 'e' :: rest => some (bool true, rest)
    | 'f' :: 'a' :: 'l' :: 's' :: 'e' :: rest => some (bool false, rest)
    | '"' :: rest => (readChars [] rest).map fun (s, rest) => (str (String.ofList s), rest)
    | '-' :: rest => readNumber? true rest
    | '[' :: rest =>
      match skipBlanks rest with
      | ']' :: rest => some (arr [], rest)
      | rest => (readItems? fuel rest).map fun (items, rest) => (arr items, rest)
    | '{' :: rest =>
      match skipBlanks rest with
      | '}' :: rest => some (obj [], rest)
      | rest => (readFields? fuel rest).map fun (fields, rest) => (record fields, rest)
    | rest => readNumber? false rest

def readItems? : Nat → List Char → Option (List Json × List Char)
  | 0, _ => none
  | fuel + 1, cs => do
    let (x, rest) ← readValue? fuel cs
    match skipBlanks rest with
    | ',' :: rest =>
      let (xs, rest) ← readItems? fuel rest
      return (x :: xs, rest)
    | ']' :: rest => return ([x], rest)
    | _ => none

def readFields? : Nat → List Char → Option (List (String × Json) × List Char)
  | 0, _ => none
  | fuel + 1, cs =>
    match skipBlanks cs with
    | '"' :: rest => do
      let (key, rest) ← readChars [] rest
      match skipBlanks rest with
      | ':' :: rest =>
        let (x, rest) ← readValue? fuel rest
        match skipBlanks rest with
        | ',' :: rest =>
          let (fields, rest) ← readFields? fuel rest
          return ((String.ofList key, x) :: fields, rest)
        | '}' :: rest => return ([(String.ofList key, x)], rest)
        | _ => none
      | _ => none
    | _ => none

end

def parse? (text : String) : Option Json :=
  let cs := text.toList
  match readValue? (cs.length + 1) cs with
  | some (j, rest) => if (skipBlanks rest).isEmpty then some j else none
  | none => none

end TypedArtifacts.Json
