import TypedArtifacts.Text.Digits

namespace TypedArtifacts

structure Version where
  major : Nat
  minor : Nat
  patch : Nat
  pre : List String
  build : Option String
  deriving DecidableEq

inductive VersionError where
  | malformed (text : String)
  | overflow (component : String)
  deriving DecidableEq

def VersionError.message : VersionError → String
  | malformed text => "'" ++ text ++ "' is not a semantic version"
  | overflow component => "version component '" ++ component ++ "' does not fit in 64 bits"

namespace Version

def isIdentifierChar (c : Char) : Bool :=
  c.isAlphanum || c = '-'

def isIdentifier (cs : List Char) : Bool :=
  !cs.isEmpty && cs.all isIdentifierChar

def isNumeral : List Char → Bool
  | [] => false
  | c :: cs => (c = '0' && cs.isEmpty) || ('1' ≤ c && c ≤ '9' && cs.all Text.isDigit)

def word64? (cs : List Char) : Option Nat :=
  if !cs.isEmpty && cs.all Char.isDigit && Text.numeral cs < UInt64.size then some (Text.numeral cs) else none

def cut (mark : Char) (cs : List Char) : List Char × Option (List Char) :=
  (cs.takeWhile (· ≠ mark), (cs.dropWhile (· ≠ mark)).tail?)

structure Parts where
  core : List Char × List Char × List Char
  pre : List (List Char)
  build : Option (List Char)

def identifiers? (cs : List Char) : Option (List (List Char)) :=
  let ids := cs.splitOn '.'
  if ids.all isIdentifier then some ids else none

def parts? (cs : List Char) : Option Parts := do
  let (front, build) := cut '+' cs
  let (core, pre) := cut '-' front
  match core.splitOn '.' with
  | [a, b, c] =>
    if !(isNumeral a && isNumeral b && isNumeral c) then none
    let pre ← match pre with
      | none => some []
      | some pre => identifiers? pre
    match build with
    | none => return ⟨(a, b, c), pre, none⟩
    | some build =>
      let _ ← identifiers? build
      return ⟨(a, b, c), pre, some build⟩
  | _ => none

def component (cs : List Char) : Except VersionError Nat :=
  match word64? cs with
  | some n => .ok n
  | none => .error (.overflow (String.ofList cs))

def parse (text : String) : Except VersionError Version :=
  match parts? text.toList with
  | none => .error (.malformed text)
  | some parts => do
    let major ← component parts.core.1
    let minor ← component parts.core.2.1
    let patch ← component parts.core.2.2
    return ⟨major, minor, patch, parts.pre.map String.ofList, parts.build.map String.ofList⟩

def parse? (text : String) : Option Version :=
  (parse text).toOption

def isValid (text : String) : Bool :=
  (parse? text).isSome

def text (v : Version) : String :=
  toString v.major ++ "." ++ toString v.minor ++ "." ++ toString v.patch ++
    (if v.pre.isEmpty then "" else "-" ++ ".".intercalate v.pre) ++
    (match v.build with
      | none => ""
      | some build => "+" ++ build)

def compareIdentifier (a b : String) : Ordering :=
  match word64? a.toList, word64? b.toList with
  | some m, some n => compare m n
  | some _, none => .lt
  | none, some _ => .gt
  | none, none => compare a b

def compareIdentifiers : List String → List String → Ordering
  | [], [] => .eq
  | [], _ :: _ => .lt
  | _ :: _, [] => .gt
  | a :: as, b :: bs => (compareIdentifier a b).then (compareIdentifiers as bs)

def comparePre : List String → List String → Ordering
  | [], [] => .eq
  | [], _ :: _ => .gt
  | _ :: _, [] => .lt
  | a :: as, b :: bs => compareIdentifiers (a :: as) (b :: bs)

def precedence (v w : Version) : Ordering :=
  (((compare v.major w.major).then (compare v.minor w.minor)).then (compare v.patch w.patch)).then
    (comparePre v.pre w.pre)

theorem precedence_build (v w : Version) (b : Option String) :
    precedence { v with build := b } w = precedence v w := rfl

end Version

end TypedArtifacts
