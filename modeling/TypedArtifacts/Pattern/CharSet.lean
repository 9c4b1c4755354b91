import TypedArtifacts.Text.Digits
import TypedArtifacts.Text.Words
import TypedArtifacts.Text.Folding

namespace TypedArtifacts.Pattern

inductive CharSet where
  | none
  | range (low high : Char)
  | digit
  | word
  | blank
  | anyCase (s : CharSet)
  | complement (s : CharSet)
  | union (s t : CharSet)
  | inter (s t : CharSet)
  deriving DecidableEq

namespace CharSet

def has : CharSet → Char → Bool
  | none, _ => false
  | range low high, c => low ≤ c && c ≤ high
  | digit, c => Text.isDigit c
  | word, c => Text.isWord c
  | blank, c => Text.isBlank c
  | anyCase s, c => (Text.caseVariants c).any s.has
  | complement s, c => !s.has c
  | union s t, c => s.has c || t.has c
  | inter s t, c => s.has c && t.has c

def single (c : Char) : CharSet :=
  range c c

def oneOf (sets : List CharSet) : CharSet :=
  sets.foldr union none

def minus (s t : CharSet) : CharSet :=
  inter s (complement t)

def symmDiff (s t : CharSet) : CharSet :=
  union (minus s t) (minus t s)

theorem has_single {a c : Char} : (single a).has c = true ↔ c = a := by
  simp only [single, has, Bool.and_eq_true, decide_eq_true_eq]
  exact ⟨fun h => Char.le_antisymm h.2 h.1, fun h => h ▸ ⟨Char.le_refl _, Char.le_refl _⟩⟩

end CharSet

end TypedArtifacts.Pattern
