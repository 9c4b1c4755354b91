import TypedArtifacts.Binary64

/-!
The fewest decimal digits that read back as a given double.
-/

namespace TypedArtifacts

structure Decimal where
  digits : Nat
  exponent : Int
  deriving DecidableEq

namespace Decimal

inductive Tie where
  | even
  | up
  deriving DecidableEq

structure Interval where
  low : Nat
  value : Nat
  high : Nat
  closed : Bool

def interval (m : Nat) (e : Int) : Interval where
  low := if m = Nat.pow 2 (Binary64.precision - 1) ∧ Binary64.minExponent < e then 4 * m - 1 else 4 * m - 2
  value := 4 * m
  high := 4 * m + 2
  closed := m % 2 = 0

def gridScale (e j : Int) : Nat × Nat :=
  (Nat.pow 2 (e - 2).toNat * Nat.pow 10 (-j).toNat, Nat.pow 2 (2 - e).toNat * Nat.pow 10 j.toNat)

/-- The neighbour of the value on the grid of multiples of ten to the power `j` that lies in the
interval, the nearer one if both do. -/
def onGrid? (tie : Tie) (i : Interval) (e j : Int) : Option Nat :=
  let (a, b) := gridScale e j
  let inside (c : Nat) : Bool :=
    if i.closed then i.low * a ≤ c * b ∧ c * b ≤ i.high * a else i.low * a < c * b ∧ c * b < i.high * a
  let down := i.value * a / b
  let rest := 2 * (i.value * a % b)
  match inside down, inside (down + 1) with
  | true, true =>
    if rest < b then some down
    else if b < rest then some (down + 1)
    else if tie = .even ∧ down % 2 = 0 then some down else some (down + 1)
  | true, false => some down
  | false, true => some (down + 1)
  | false, false => none

def search (tie : Tie) (i : Interval) (e : Int) : Nat → Int → Decimal
  | 0, j => ⟨i.value * (gridScale e j).1 / (gridScale e j).2, j⟩
  | fuel + 1, j =>
    match onGrid? tie i e j with
    | some c => ⟨c, j⟩
    | none => search tie i e fuel (j - 1)

def powerAbove (b : Int) : Int :=
  (b * 30103) / 100000 + 1

def shortest (tie : Tie) (m : Nat) (e : Int) : Decimal :=
  if m = 0 then ⟨0, 0⟩
  else search tie (interval m e) e 25 (powerAbove (m.log2 + 1 + e))

end Decimal

end TypedArtifacts
