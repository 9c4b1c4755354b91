import TypedArtifacts.Pattern.Tree
import TypedArtifacts.Json.Reader

namespace TypedArtifacts.Pattern

structure Flags where
  anyCase : Bool := false
  multiLine : Bool := false
  dotNewline : Bool := false
  spaced : Bool := false

namespace Flags

def set? (flags : Flags) (value : Bool) : Char → Option Flags
  | 'i' => some { flags with anyCase := value }
  | 'm' => some { flags with multiLine := value }
  | 's' => some { flags with dotNewline := value }
  | 'x' => some { flags with spaced := value }
  | 'U' => some flags
  | 'u' => some flags
  | _ => none

def read? (flags : Flags) (value : Bool) (seen : List Char) : List Char → Option (Flags × Bool × List Char)
  | ':' :: rest => some (flags, true, rest)
  | ')' :: rest => if seen.isEmpty then none else some (flags, false, rest)
  | '-' :: c :: rest =>
    if value && !seen.contains c then
      (flags.set? false c).bind fun flags => read? flags false (c :: seen) rest
    else none
  | c :: rest =>
    if seen.contains c then none
    else (flags.set? value c).bind fun flags => read? flags value (c :: seen) rest
  | [] => none

def caseFolded (flags : Flags) (s : CharSet) : CharSet :=
  if flags.anyCase then .anyCase s else s

end Flags

def hexNumeral? (digits : List Char) : Option Nat :=
  digits.foldlM (fun n c => (Json.hexValue? c).map (n * 16 + ·)) 0

def charOf? (n : Nat) : Option Char :=
  if n < 0xD800 ∨ (0xDFFF < n ∧ n < 0x110000) then some (Char.ofNat n) else none

def readCode? (width : Nat) : List Char → Option (Char × List Char)
  | '{' :: rest =>
    let digits := rest.takeWhile (· ≠ '}')
    match rest.dropWhile (· ≠ '}') with
    | _ :: rest =>
      if digits.isEmpty then none else ((hexNumeral? digits).bind charOf?).map fun c => (c, rest)
    | [] => none
  | rest =>
    if rest.length < width then none
    else ((hexNumeral? (rest.take width)).bind charOf?).map fun c => (c, rest.drop width)

def classEscape? : Char → Option CharSet
  | 'd' => some .digit
  | 'D' => some (.complement .digit)
  | 'w' => some .word
  | 'W' => some (.complement .word)
  | 's' => some .blank
  | 'S' => some (.complement .blank)
  | _ => none

def assertionEscape? : Char → Option Assertion
  | 'A' => some .textStart
  | 'z' => some .textEnd
  | 'b' => some .boundary
  | 'B' => some .noBoundary
  | _ => none

def literalEscape? (c : Char) : Option Char :=
  match c with
  | 'a' => some '\x07'
  | 'f' => some '\x0c'
  | 't' => some '\t'
  | 'n' => some '\n'
  | 'r' => some '\r'
  | 'v' => some '\x0b'
  | _ => if c.toNat < 128 && !c.isAlphanum && c ≠ '<' && c ≠ '>' then some c else none

def readLiteralEscape? : List Char → Option (Char × List Char)
  | 'x' :: rest => readCode? 2 rest
  | 'u' :: rest => readCode? 4 rest
  | 'U' :: rest => readCode? 8 rest
  | c :: rest => (literalEscape? c).map fun c => (c, rest)
  | [] => none

def asciiLower : CharSet := .range 'a' 'z'

def asciiUpper : CharSet := .range 'A' 'Z'

def asciiDigit : CharSet := .range '0' '9'

def asciiAlnum : CharSet := .oneOf [asciiLower, asciiUpper, asciiDigit]

def asciiClass? (name : String) : Option CharSet :=
  match name with
  | "alnum" => some asciiAlnum
  | "alpha" => some (.union asciiLower asciiUpper)
  | "ascii" => some (.range '\x00' '\x7f')
  | "blank" => some (.union (.single ' ') (.single '\t'))
  | "cntrl" => some (.union (.range '\x00' '\x1f') (.single '\x7f'))
  | "digit" => some asciiDigit
  | "graph" => some (.range '!' '~')
  | "lower" => some asciiLower
  | "print" => some (.range ' ' '~')
  | "punct" => some (.minus (.range '!' '~') asciiAlnum)
  | "space" => some (.union (.range '\t' '\r') (.single ' '))
  | "upper" => some asciiUpper
  | "word" => some (.union asciiAlnum (.single '_'))
  | "xdigit" => some (.oneOf [asciiDigit, .range 'a' 'f', .range 'A' 'F'])
  | _ => none

def readAsciiClass? (flags : Flags) (cs : List Char) : Option (CharSet × List Char) :=
  match cs with
  | ':' :: rest =>
    let (negated, rest) :=
      match rest with
      | '^' :: rest => (true, rest)
      | _ => (false, rest)
    let name := rest.takeWhile (· ≠ ':')
    match rest.dropWhile (· ≠ ':') with
    | ':' :: ']' :: rest =>
      (asciiClass? (String.ofList name)).map fun s =>
        (if negated then .complement (flags.caseFolded s) else flags.caseFolded s, rest)
    | _ => none
  | _ => none

inductive ClassAtom where
  | literal (c : Char)
  | set (s : CharSet)

def readClassAtom? : List Char → Option (ClassAtom × List Char)
  | '\\' :: c :: rest =>
    match classEscape? c with
    | some s => some (.set s, rest)
    | none => (readLiteralEscape? (c :: rest)).map fun (c, rest) => (.literal c, rest)
  | '\\' :: [] => none
  | c :: rest => some (.literal c, rest)
  | [] => none

def ClassAtom.toSet (flags : Flags) : ClassAtom → CharSet
  | literal c => flags.caseFolded (.single c)
  | set s => s

def readRange? (flags : Flags) (cs : List Char) : Option (CharSet × List Char) := do
  let (first, rest) ← readClassAtom? cs
  match rest with
  | [] => none
  | '-' :: ']' :: _ => return (first.toSet flags, rest)
  | '-' :: '-' :: _ => return (first.toSet flags, rest)
  | '-' :: rest =>
    let (last, rest) ← readClassAtom? rest
    match first, last with
    | .literal a, .literal b => if a ≤ b then return (flags.caseFolded (.range a b), rest) else none
    | _, _ => none
  | _ => return (first.toSet flags, rest)

inductive SetOperator where
  | inter
  | minus
  | symmDiff

def SetOperator.apply : SetOperator → CharSet → CharSet → CharSet
  | inter => .inter
  | minus => .minus
  | symmDiff => .symmDiff

def combine : Option (CharSet × SetOperator) → CharSet → CharSet
  | none, s => s
  | some (left, op), s => op.apply left s

def skipHyphens : List Char → CharSet × List Char
  | '-' :: rest => (.single '-', (skipHyphens rest).2)
  | rest => (.none, rest)

def openClass (cs : List Char) : Bool × CharSet × List Char :=
  let (negated, rest) :=
    match cs with
    | '^' :: rest => (true, rest)
    | _ => (false, cs)
  let (hyphens, rest) := skipHyphens rest
  match hyphens, rest with
  | .none, ']' :: rest => (negated, .single ']', rest)
  | hyphens, rest => (negated, hyphens, rest)

def readClassItems? (flags : Flags) :
    Nat → Option (CharSet × SetOperator) → CharSet → List Char → Option (CharSet × List Char)
  | 0, _, _, _ => none
  | fuel + 1, left, s, cs =>
    match cs with
    | [] => none
    | ']' :: rest => some (combine left s, rest)
    | '[' :: rest =>
      match readAsciiClass? flags rest with
      | some (t, rest) => readClassItems? flags fuel left (.union s t) rest
      | none =>
        let (negated, start, rest) := openClass rest
        match readClassItems? flags fuel none start rest with
        | some (t, rest) =>
          readClassItems? flags fuel left (.union s (if negated then .complement t else t)) rest
        | none => none
    | '&' :: '&' :: rest => readClassItems? flags fuel (some (combine left s, .inter)) .none rest
    | '-' :: '-' :: rest => readClassItems? flags fuel (some (combine left s, .minus)) .none rest
    | '~' :: '~' :: rest => readClassItems? flags fuel (some (combine left s, .symmDiff)) .none rest
    | _ =>
      match readRange? flags cs with
      | some (t, rest) => readClassItems? flags fuel left (.union s t) rest
      | none => none

def readClass? (flags : Flags) (cs : List Char) : Option (CharSet × List Char) :=
  let (negated, start, rest) := openClass cs
  (readClassItems? flags (cs.length + 1) none start rest).map fun (s, rest) =>
    (if negated then .complement s else s, rest)

def skipBlanks (cs : List Char) : List Char :=
  cs.dropWhile Text.isBlank

def readCount? (cs : List Char) : Option (Nat × List Char) :=
  let cs := skipBlanks cs
  let digits := cs.takeWhile Char.isDigit
  let n : Nat := digits.foldl (fun n c => n * 10 + (c.toNat - '0'.toNat)) 0
  if digits.isEmpty ∨ UInt32.size ≤ n then none else some (n, skipBlanks (cs.dropWhile Char.isDigit))

def readBounds? (cs : List Char) : Option ((Nat × Option Nat) × List Char) := do
  let (low, rest) ← readCount? cs
  match rest with
  | '}' :: rest => return ((low, some low), rest)
  | ',' :: rest =>
    match skipBlanks rest with
    | '}' :: rest => return ((low, none), rest)
    | _ =>
      let (high, rest) ← readCount? rest
      match rest with
      | '}' :: rest => if low ≤ high then return ((low, some high), rest) else none
      | _ => none
  | _ => none

def skipLazy : List Char → List Char
  | '?' :: rest => rest
  | rest => rest

def readRepeats? : Nat → Tree → List Char → Option (Tree × List Char)
  | 0, _, _ => none
  | fuel + 1, t, cs =>
    match cs with
    | '*' :: rest => readRepeats? fuel (.star t) (skipLazy rest)
    | '+' :: rest => readRepeats? fuel (.seq t (.star t)) (skipLazy rest)
    | '?' :: rest => readRepeats? fuel (.optional t) (skipLazy rest)
    | '{' :: rest =>
      match readBounds? rest with
      | some ((low, high), rest) => readRepeats? fuel (t.repeated low high) (skipLazy rest)
      | none => none
    | _ => some (t, cs)

def isNameChar (c : Char) : Bool :=
  Text.isWord c || c = '.' || c = '[' || c = ']'

def readName? (cs : List Char) : Option (List Char) :=
  let name := cs.takeWhile (· ≠ '>')
  match name, cs.dropWhile (· ≠ '>') with
  | c :: _, _ :: rest => if name.all isNameChar && !c.isDigit && c ≠ '.' then some rest else none
  | _, _ => none

def anyChar (flags : Flags) : CharSet :=
  if flags.dotNewline then .complement .none else .complement (.single '\n')

def startOf (flags : Flags) : Assertion :=
  if flags.multiLine then .lineStart else .textStart

def endOf (flags : Flags) : Assertion :=
  if flags.multiLine then .lineEnd else .textEnd

def readEscape? (flags : Flags) : List Char → Option (Tree × List Char)
  | c :: rest =>
    match classEscape? c, assertionEscape? c with
    | some s, _ => some (.set s, rest)
    | none, some a => some (.assertion a, rest)
    | none, none =>
      (readLiteralEscape? (c :: rest)).map fun (c, rest) => (.set (flags.caseFolded (.single c)), rest)
  | [] => none

def skipSpacing (flags : Flags) : Nat → List Char → List Char
  | 0, cs => cs
  | fuel + 1, cs =>
    if flags.spaced then
      match skipBlanks cs with
      | '#' :: rest => skipSpacing flags fuel (rest.dropWhile (· ≠ '\n'))
      | rest => rest
    else cs

mutual

def readAlternatives? : Nat → Flags → List Char → Option (Tree × Flags × List Char)
  | 0, _, _ => none
  | fuel + 1, flags, cs => do
    let (t, flags, rest) ← readSequence? fuel flags .empty cs
    match rest with
    | '|' :: rest =>
      let (u, flags, rest) ← readAlternatives? fuel flags rest
      return (.alt t u, flags, rest)
    | _ => return (t, flags, rest)

def readSequence? : Nat → Flags → Tree → List Char → Option (Tree × Flags × List Char)
  | 0, _, _, _ => none
  | fuel + 1, flags, done, cs =>
    match skipSpacing flags cs.length cs with
    | [] => some (done, flags, [])
    | '|' :: rest => some (done, flags, '|' :: rest)
    | ')' :: rest => some (done, flags, ')' :: rest)
    | '(' :: '?' :: rest =>
      match rest with
      | 'P' :: '<' :: rest => (readName? rest).bind fun rest => readGroup? fuel flags flags done rest
      | '<' :: rest => (readName? rest).bind fun rest => readGroup? fuel flags flags done rest
      | _ =>
        match flags.read? true [] rest with
        | some (inner, true, rest) => readGroup? fuel flags inner done rest
        | some (flags, false, rest) => readSequence? fuel flags done rest
        | none => none
    | '(' :: rest => readGroup? fuel flags flags done rest
    | '[' :: rest => (readClass? flags rest).bind fun (s, rest) => readRepeated? fuel flags done (.set s) rest
    | '\\' :: rest => (readEscape? flags rest).bind fun (t, rest) => readRepeated? fuel flags done t rest
    | '.' :: rest => readRepeated? fuel flags done (.set (anyChar flags)) rest
    | '^' :: rest => readRepeated? fuel flags done (.assertion (startOf flags)) rest
    | '$' :: rest => readRepeated? fuel flags done (.assertion (endOf flags)) rest
    | c :: rest =>
      if c = '*' ∨ c = '+' ∨ c = '?' ∨ c = '{' then none
      else readRepeated? fuel flags done (.set (flags.caseFolded (.single c))) rest

def readGroup? : Nat → Flags → Flags → Tree → List Char → Option (Tree × Flags × List Char)
  | 0, _, _, _, _ => none
  | fuel + 1, outer, inner, done, cs => do
    let (t, _, rest) ← readAlternatives? fuel inner cs
    match rest with
    | ')' :: rest => readRepeated? fuel outer done t rest
    | _ => none

def readRepeated? : Nat → Flags → Tree → Tree → List Char → Option (Tree × Flags × List Char)
  | 0, _, _, _, _ => none
  | fuel + 1, flags, done, t, cs => do
    let (t, rest) ← readRepeats? (cs.length + 1) t cs
    readSequence? fuel flags (done.andThen t) rest

end

end TypedArtifacts.Pattern
