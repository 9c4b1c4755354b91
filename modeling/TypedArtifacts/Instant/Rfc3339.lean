import TypedArtifacts.Instant
import TypedArtifacts.Text.Digits

namespace TypedArtifacts.Instant

def digit? (c : Char) : Option Nat :=
  if c.isDigit then some (c.toNat - '0'.toNat) else none

def twoDigits? (a b : Char) : Option Nat := do
  return 10 * (← digit? a) + (← digit? b)

def fourDigits? (a b c d : Char) : Option Nat := do
  return 100 * (← twoDigits? a b) + (← twoDigits? c d)

def fractionNanos (digits : List Char) : Nat :=
  Text.numeral (digits.take 9) * Nat.pow 10 (9 - digits.length)

def readFraction? : List Char → Option (Nat × List Char)
  | '.' :: rest =>
    let digits := rest.takeWhile Char.isDigit
    if digits.isEmpty then none else some (fractionNanos digits, rest.dropWhile Char.isDigit)
  | rest => some (0, rest)

def isSeparator (c : Char) : Bool :=
  c = 'T' || c = 't' || c = ' '

def offsetSign? (c : Char) : Option Int :=
  if c = '+' then some 1 else if c = '-' ∨ c = '\u2212' then some (-1) else none

def ofOffset? (sign : Int) (hours minutes : Nat) : Option Int :=
  if hours < 24 ∧ minutes < 60 then some (sign * (hours * 60 + minutes : Nat)) else none

def readOffset? : List Char → Option Int
  | ['Z'] => some 0
  | ['z'] => some 0
  | [s, a, b, ':', c, d] => do
    ofOffset? (← offsetSign? s) (← twoDigits? a b) (← twoDigits? c d)
  | _ => none

def parseChars? : List Char → Option Instant
  | y₁ :: y₂ :: y₃ :: y₄ :: '-' :: m₁ :: m₂ :: '-' :: d₁ :: d₂ :: sep ::
      h₁ :: h₂ :: ':' :: n₁ :: n₂ :: ':' :: s₁ :: s₂ :: rest => do
    if !isSeparator sep then none
    let year ← fourDigits? y₁ y₂ y₃ y₄
    let month ← twoDigits? m₁ m₂
    let day ← twoDigits? d₁ d₂
    let hour ← twoDigits? h₁ h₂
    let minute ← twoDigits? n₁ n₂
    let second ← twoDigits? s₁ s₂
    let (nanos, rest) ← readFraction? rest
    let offset ← readOffset? rest
    ofClock? ⟨year, month, day⟩ hour minute second nanos offset
  | _ => none

def parse? (text : String) : Option Instant :=
  parseChars? text.toList

def skipBlanks (cs : List Char) : List Char :=
  cs.dropWhile Text.isBlank

def readNumber? (most : Nat) (cs : List Char) : Option (Nat × List Char) :=
  let cs := skipBlanks cs
  let digits := (cs.take most).takeWhile Char.isDigit
  if digits.isEmpty then none else some (Text.numeral digits, cs.drop digits.length)

def readYear? (cs : List Char) : Option (Int × List Char) :=
  match skipBlanks cs with
  | '-' :: rest => (readNumber? rest.length rest).bind fun (n, rest') =>
      if rest.head?.any Char.isDigit then some (-(n : Int), rest') else none
  | '+' :: rest => (readNumber? rest.length rest).bind fun (n, rest') =>
      if rest.head?.any Char.isDigit then some (n, rest') else none
  | rest => (readNumber? 4 rest).map fun (n, rest) => (n, rest)

def expect? (c : Char) (cs : List Char) : Option (List Char) :=
  match skipBlanks cs with
  | d :: rest => if c = d then some rest else none
  | [] => none

def isOffsetGap (c : Char) : Bool :=
  c = ':' || Text.isBlank c

def isUtc (a b c : Char) : Bool :=
  a.toLower = 'u' && b.toLower = 't' && c.toLower = 'c'

def readLenientOffset? : List Char → Option (Int × List Char)
  | 'Z' :: rest => some (0, rest)
  | 'z' :: rest => some (0, rest)
  | a :: b :: c :: rest =>
    if isUtc a b c then some (0, rest)
    else do
      let sign ← offsetSign? a
      let hours ← twoDigits? b c
      match rest.dropWhile isOffsetGap with
      | d :: e :: rest =>
        let offset ← ofOffset? sign hours (← twoDigits? d e)
        return (offset, rest)
      | _ => none
  | _ => none

/-- Reads the looser form: blanks before numbers and marks, years with a sign, and `UTC` as offset. -/
def parseLenient? (text : String) : Option Instant := do
  let (year, cs) ← readYear? text.toList
  let (month, cs) ← readNumber? 2 (← expect? '-' cs)
  let (day, cs) ← readNumber? 2 (← expect? '-' cs)
  match cs with
  | sep :: cs =>
    if !isSeparator sep then none
    let (hour, cs) ← readNumber? 2 cs
    let (minute, cs) ← readNumber? 2 (← expect? ':' cs)
    let (second, cs) ← readNumber? 2 (← expect? ':' cs)
    let (nanos, cs) ← readFraction? cs
    let (offset, cs) ← readLenientOffset? (skipBlanks cs)
    if !(skipBlanks cs).isEmpty then none
    if year < -262143 ∨ 262142 < year then none
    ofClock? ⟨year, month, day⟩ hour minute second nanos offset
  | [] => none

def padded (width n : Nat) : List Char :=
  let digits := Nat.toDigits 10 n
  List.replicate (width - digits.length) '0' ++ digits

def yearText (year : Int) : List Char :=
  if 0 ≤ year ∧ year ≤ 9999 then padded 4 year.toNat
  else (if year < 0 then '-' else '+') :: padded 4 year.natAbs

def wholeText (t : Instant) : List Char :=
  let date := Date.ofDays (t.seconds / daySeconds)
  let s := (t.seconds % daySeconds).toNat
  let second := s % 60 + (if billion ≤ t.nanos then 1 else 0)
  yearText date.year ++ '-' :: padded 2 date.month ++ '-' :: padded 2 date.day ++ 'T' ::
    padded 2 (s / 3600) ++ ':' :: padded 2 (s / 60 % 60) ++ ':' :: padded 2 second

def micros (t : Instant) : String :=
  String.ofList (wholeText t ++ '.' :: padded 6 (t.nanos % billion / 1000) ++ ['Z'])

def fractionText (nanos : Nat) : List Char :=
  if nanos = 0 then []
  else if nanos % 1000000 = 0 then '.' :: padded 3 (nanos / 1000000)
  else if nanos % 1000 = 0 then '.' :: padded 6 (nanos / 1000)
  else '.' :: padded 9 nanos

def exact (t : Instant) : String :=
  String.ofList (wholeText t ++ fractionText (t.nanos % billion) ++ ['Z'])

end TypedArtifacts.Instant
