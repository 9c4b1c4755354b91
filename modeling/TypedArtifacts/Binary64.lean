/-!
Double precision numbers as exact dyadic rationals, with rounding to the nearest one.
-/

namespace TypedArtifacts

/-- A finite number is its significand times two to its exponent. -/
inductive Binary64 where
  | nan
  | infinite (negative : Bool)
  | finite (negative : Bool) (significand : Nat) (exponent : Int)
  deriving DecidableEq

namespace Binary64

def precision : Nat := 53

def minExponent : Int := -1074

def maxExponent : Int := 971

def Canonical : Binary64 → Prop
  | nan => True
  | infinite _ => True
  | finite _ m e =>
    m < Nat.pow 2 precision ∧ minExponent ≤ e ∧ e ≤ maxExponent ∧
      (Nat.pow 2 (precision - 1) ≤ m ∨ e = minExponent)

def zero (negative : Bool) : Binary64 :=
  finite negative 0 minExponent

def signed (negative : Bool) (m : Nat) : Int :=
  if negative then -(m : Int) else m

def scaledTo (e : Int) (negative : Bool) (m : Nat) (exponent : Int) : Int :=
  signed negative (m * Nat.pow 2 (exponent - e).toNat)

def lt : Binary64 → Binary64 → Bool
  | nan, _ => false
  | _, nan => false
  | infinite s, infinite t => s && !t
  | infinite s, finite .. => s
  | finite .., infinite t => !t
  | finite s m e, finite t n f =>
    let low := min e f
    decide (scaledTo low s m e < scaledTo low t n f)

def equals : Binary64 → Binary64 → Bool
  | nan, _ => false
  | _, nan => false
  | infinite s, infinite t => s == t
  | infinite _, finite .. => false
  | finite .., infinite _ => false
  | finite s m e, finite t n f =>
    let low := min e f
    decide (scaledTo low s m e = scaledTo low t n f)

def isFinite : Binary64 → Bool
  | finite .. => true
  | _ => false

def roundDiv (num den : Nat) : Nat :=
  let q := num / den
  let r := num % den
  if 2 * r < den then q
  else if den < 2 * r then q + 1
  else if q % 2 = 0 then q else q + 1

def overPower (num den : Nat) (e : Int) : Nat × Nat :=
  if 0 ≤ e then (num, den * Nat.pow 2 e.toNat) else (num * Nat.pow 2 (-e).toNat, den)

def fitExponent (num den : Nat) : Int :=
  let guess : Int := (num.log2 : Int) - den.log2 - precision
  let (n, d) := overPower num den guess
  let e := if n / d < Nat.pow 2 precision then guess else guess + 1
  max e minExponent

/-- The nearest number to `num / den`, ties to the even significand. -/
def ofRatio (negative : Bool) (num den : Nat) : Binary64 :=
  if num = 0 then zero negative
  else
    let e := fitExponent num den
    let (n, d) := overPower num den e
    let m := roundDiv n d
    let (m, e) := if m < Nat.pow 2 precision then (m, e) else (Nat.pow 2 (precision - 1), e + 1)
    if e ≤ maxExponent then finite negative m e else infinite negative

def ofNat (n : Nat) : Binary64 :=
  ofRatio false n 1

def ofInt (n : Int) : Binary64 :=
  ofRatio (decide (n < 0)) n.natAbs 1

def neg : Binary64 → Binary64
  | nan => nan
  | infinite s => infinite !s
  | finite s m e => finite (!s) m e

def mul : Binary64 → Binary64 → Binary64
  | finite s m e, finite t n f =>
    let (num, den) := overPower (m * n) 1 (-(e + f))
    ofRatio (s != t) num den
  | infinite s, infinite t => infinite (s != t)
  | infinite s, finite t n _ => if n = 0 then nan else infinite (s != t)
  | finite s m _, infinite t => if m = 0 then nan else infinite (s != t)
  | nan, _ => nan
  | _, nan => nan

def div : Binary64 → Binary64 → Binary64
  | finite s m e, finite t n f =>
    if n = 0 then nan
    else
      let (num, den) := overPower m n (f - e)
      ofRatio (s != t) num den
  | _, _ => nan

theorem lt_irrefl (x : Binary64) : lt x x = false := by
  cases x <;> simp [lt]

theorem equals_finite_self (s : Bool) (m : Nat) (e : Int) :
    equals (finite s m e) (finite s m e) = true := by
  simp [equals]

end Binary64

end TypedArtifacts
