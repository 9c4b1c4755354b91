import TypedArtifacts.Instant
import TypedArtifacts.Json.Reader
import TypedArtifacts.Text.Digits
import TypedArtifacts.Toml.Quoted

/-!
Single values of TOML as JSON. A date-time becomes an object with its text under a reserved key.
-/

namespace TypedArtifacts.Toml

def readDigitsAfter? (isDigit : Char → Bool) : List Char → Option (List Char × List Char)
  | '_' :: c :: rest => if isDigit c then prepend c (readDigitsAfter? isDigit rest) else none
  | ['_'] => none
  | c :: rest => if isDigit c then prepend c (readDigitsAfter? isDigit rest) else some ([], c :: rest)
  | [] => some ([], [])

def readDigits? (isDigit : Char → Bool) : List Char → Option (List Char × List Char)
  | c :: rest => if isDigit c then prepend c (readDigitsAfter? isDigit rest) else none
  | [] => none

def readWhole? : List Char → Option (List Char × List Char)
  | '0' :: rest => some (['0'], rest)
  | cs => readDigits? Char.isDigit cs

def readSign : List Char → Bool × List Char
  | '-' :: rest => (true, rest)
  | '+' :: rest => (false, rest)
  | cs => (false, cs)

def nearest (negative : Bool) (m : Nat) (e : Int) : Binary64 :=
  let size := (Nat.toDigits 10 m).length + e
  if m = 0 ∨ size < -400 then .zero negative
  else if 400 < size then .infinite negative
  else if 0 ≤ e then .ofRatio negative (m * Nat.pow 10 e.toNat) 1
  else .ofRatio negative m (Nat.pow 10 (-e).toNat)

def ofDecimal? (negative : Bool) (m : Nat) (e : Int) : Option Json :=
  match nearest negative m e with
  | .infinite false => none
  | x => some (.float x)

def ofInteger? (n : Int) : Option Json :=
  if Json.minInt64 ≤ n ∧ n ≤ Json.maxInt64 then some (.int n) else none

def readExponent? (cs : List Char) : Option (Int × List Char) := do
  let (negative, cs) := readSign cs
  let (digits, cs) ← readDigits? Char.isDigit cs
  let n : Nat := Text.numeral digits
  return (if negative then -(n : Int) else n, cs)

def isExponentMark (c : Char) : Bool :=
  c = 'e' || c = 'E'

def readDecimal? (negative : Bool) (cs : List Char) : Option (Json × List Char) := do
  let (whole, cs) ← readWhole? cs
  match cs with
  | '.' :: cs =>
    let (fraction, cs) ← readDigits? Char.isDigit cs
    let m := Text.numeral (whole ++ fraction)
    match cs with
    | c :: cs' =>
      if isExponentMark c then
        let (e, cs') ← readExponent? cs'
        return (← ofDecimal? negative m (e - fraction.length), cs')
      else return (← ofDecimal? negative m (-fraction.length), cs)
    | [] => return (← ofDecimal? negative m (-fraction.length), [])
  | c :: cs' =>
    let m := Text.numeral whole
    if isExponentMark c then
      let (e, cs') ← readExponent? cs'
      return (← ofDecimal? negative m e, cs')
    else return (← ofInteger? (if negative then -(m : Int) else m), cs)
  | [] =>
    let m := Text.numeral whole
    return (← ofInteger? (if negative then -(m : Int) else m), [])

def inBase (base : Nat) (c : Char) : Bool :=
  (Json.hexValue? c).any (· < base)

def readInBase? (base : Nat) (cs : List Char) : Option (Json × List Char) := do
  let (digits, cs) ← readDigits? (inBase base) cs
  let n := (digits.filterMap Json.hexValue?).foldl (fun n d => n * base + d) 0
  return (← ofInteger? n, cs)

def readNumber? : List Char → Option (Json × List Char)
  | '0' :: 'x' :: rest => readInBase? 16 rest
  | '0' :: 'o' :: rest => readInBase? 8 rest
  | '0' :: 'b' :: rest => readInBase? 2 rest
  | cs =>
    match readSign cs with
    | (negative, 'i' :: 'n' :: 'f' :: rest) => some (.float (.infinite negative), rest)
    | (_, 'n' :: 'a' :: 'n' :: rest) => some (.float .nan, rest)
    | (negative, cs) => readDecimal? negative cs

def number? (digits : List Char) : Option Nat :=
  if digits.all Char.isDigit then some (Text.numeral digits) else none

def readDate? : List Char → Option (List Char × List Char)
  | a :: b :: c :: d :: '-' :: e :: f :: '-' :: g :: h :: rest => do
    let date : Date := ⟨← number? [a, b, c, d], ← number? [e, f], ← number? [g, h]⟩
    if date.valid then some ([a, b, c, d, '-', e, f, '-', g, h], rest) else none
  | _ => none

def fractionText (digits : List Char) : List Char :=
  match ((digits.take 9).reverse.dropWhile (· = '0')).reverse with
  | [] => []
  | digits => '.' :: digits

def readTime? : List Char → Option (List Char × List Char)
  | a :: b :: ':' :: c :: d :: ':' :: e :: f :: rest => do
    let clock := [a, b, ':', c, d, ':', e, f]
    if 23 < (← number? [a, b]) ∨ 59 < (← number? [c, d]) ∨ 60 < (← number? [e, f]) then none
    match rest with
    | '.' :: rest =>
      let digits := rest.takeWhile Char.isDigit
      if digits.isEmpty then none
      else some (clock ++ fractionText digits, rest.dropWhile Char.isDigit)
    | rest => some (clock, rest)
  | _ => none

def readOffset? : List Char → Option (List Char × List Char)
  | sign :: rest =>
    if sign = 'Z' ∨ sign = 'z' then some (['Z'], rest)
    else if sign = '+' ∨ sign = '-' then
      match rest with
      | a :: b :: ':' :: c :: d :: rest => do
        let hours ← number? [a, b]
        let minutes ← number? [c, d]
        if 23 < hours ∨ 59 < minutes then none
        else
          let sign := if hours = 0 ∧ minutes = 0 then '+' else sign
          some ([sign, a, b, ':', c, d], rest)
      | _ => none
    else some ([], sign :: rest)
  | [] => some ([], [])

def isTimeMark (c : Char) : Bool :=
  c = 'T' || c = 't' || c = ' '

def readTimeAfterDate? : List Char → Option (List Char × List Char)
  | mark :: rest =>
    if isTimeMark mark then
      match readTime? rest with
      | some (time, rest) => (readOffset? rest).map fun (offset, rest) => ('T' :: (time ++ offset), rest)
      | none => some ([], mark :: rest)
    else some ([], mark :: rest)
  | [] => some ([], [])

def readDateTime? (cs : List Char) : Option (List Char × List Char) :=
  match readDate? cs with
  | some (date, rest) => (readTimeAfterDate? rest).map fun (time, rest) => (date ++ time, rest)
  | none => readTime? cs

def dateTimeKey : String := "$__toml_private_datetime"

def ofDateTime (text : List Char) : Json :=
  .obj [(dateTimeKey, .str (String.ofList text))]

def startsNumber (c : Char) : Bool :=
  c.isDigit || c = '+' || c = '-' || c = 'i' || c = 'n'

def readScalar? : List Char → Option (Json × List Char)
  | 't' :: 'r' :: 'u' :: 'e' :: rest => some (.bool true, rest)
  | 'f' :: 'a' :: 'l' :: 's' :: 'e' :: rest => some (.bool false, rest)
  | c :: rest =>
    if c = '"' ∨ c = '\'' then
      (readQuoted? (c :: rest)).map fun (text, rest) => (.str (String.ofList text), rest)
    else if startsNumber c then
      match readDateTime? (c :: rest) with
      | some (text, rest) => some (ofDateTime text, rest)
      | none => readNumber? (c :: rest)
    else none
  | [] => none

end TypedArtifacts.Toml
