import TypedArtifacts.Pattern.CharSet

/-!
Regular expressions with assertions, and the search for a match anywhere in a text.
-/

namespace TypedArtifacts.Pattern

inductive Assertion where
  | textStart
  | textEnd
  | lineStart
  | lineEnd
  | boundary
  | noBoundary
  deriving DecidableEq

namespace Assertion

def holds (before after : Option Char) : Assertion → Bool
  | textStart => before.isNone
  | textEnd => after.isNone
  | lineStart => before.all (· = '\n')
  | lineEnd => after.all (· = '\n')
  | boundary => before.any Text.isWord != after.any Text.isWord
  | noBoundary => before.any Text.isWord == after.any Text.isWord

end Assertion

inductive Tree where
  | empty
  | assertion (a : Assertion)
  | set (s : CharSet)
  | seq (t u : Tree)
  | alt (t u : Tree)
  | star (t : Tree)
  deriving DecidableEq

namespace Tree

def never : Tree :=
  set .none

def optional (t : Tree) : Tree :=
  alt t empty

def power (t : Tree) : Nat → Tree
  | 0 => empty
  | 1 => t
  | n + 2 => seq t (power t (n + 1))

def upTo (t : Tree) : Nat → Tree
  | 0 => empty
  | n + 1 => optional (seq t (upTo t n))

def repeated (t : Tree) (low : Nat) : Option Nat → Tree
  | none => seq (power t low) (star t)
  | some high => seq (power t low) (upTo t (high - low))

def nullable (before after : Option Char) : Tree → Bool
  | empty => true
  | assertion a => a.holds before after
  | set _ => false
  | seq t u => t.nullable before after && u.nullable before after
  | alt t u => t.nullable before after || u.nullable before after
  | star _ => true

def andThen : Tree → Tree → Tree
  | empty, u => u
  | t, u => seq t u

/-- What is left to match after a character, as alternatives. -/
def partials (before : Option Char) (c : Char) : Tree → List Tree
  | empty => []
  | assertion _ => []
  | set s => if s.has c then [empty] else []
  | seq t u =>
    (t.partials before c).map (·.andThen u) ++
      (if t.nullable before (some c) then u.partials before c else [])
  | alt t u => t.partials before c ++ u.partials before c
  | star t => (t.partials before c).map (·.andThen (star t))

def search (t : Tree) : List Tree → Option Char → List Char → Bool
  | states, before, [] => (t :: states).any (·.nullable before none)
  | states, before, c :: cs =>
    let states := (t :: states).eraseDups
    states.any (·.nullable before (some c)) ||
      search t (states.flatMap (·.partials before c)).eraseDups (some c) cs

def occursIn (t : Tree) (cs : List Char) : Bool :=
  search t [] none cs

end Tree

end TypedArtifacts.Pattern
