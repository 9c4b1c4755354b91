/-!
Points in time, counted from the start of 1970 in universal time, and their calendar dates.
-/

namespace TypedArtifacts

/-- A leap second is the second before it with `nanos` from a thousand million on. -/
structure Instant where
  seconds : Int
  nanos : Nat
  deriving DecidableEq

structure Date where
  year : Int
  month : Nat
  day : Nat
  deriving DecidableEq

namespace Date

def isLeap (year : Int) : Bool :=
  year % 4 = 0 ∧ (year % 100 ≠ 0 ∨ year % 400 = 0)

def monthLengths (year : Int) : List Nat :=
  [31, if isLeap year then 29 else 28, 31, 30, 31, 30, 31, 31, 30, 31, 30, 31]

def daysBeforeYear (year : Int) : Int :=
  365 * (year - 1) + (year - 1) / 4 - (year - 1) / 100 + (year - 1) / 400

def epochDays : Int := 719162

def daysBeforeMonth (year : Int) (month : Nat) : Nat :=
  ((monthLengths year).take (month - 1)).foldl (· + ·) 0

def valid (d : Date) : Bool :=
  1 ≤ d.month && 1 ≤ d.day && (monthLengths d.year)[d.month - 1]?.any (d.day ≤ ·)

def toDays (d : Date) : Int :=
  daysBeforeYear d.year + daysBeforeMonth d.year d.month + (d.day - 1 : Nat) - epochDays

def yearOf (days : Int) : Int :=
  let y := days * 400 / 146097 + 1
  if days < daysBeforeYear y then y - 1
  else if daysBeforeYear (y + 1) ≤ days then y + 1
  else y

def monthAndDay (month : Nat) (days : Nat) : List Nat → Nat × Nat
  | [] => (month, days + 1)
  | n :: rest => if days < n then (month, days + 1) else monthAndDay (month + 1) (days - n) rest

def ofDays (days : Int) : Date :=
  let days := days + epochDays
  let year := yearOf days
  let (month, day) := monthAndDay 1 (days - daysBeforeYear year).toNat (monthLengths year)
  ⟨year, month, day⟩

theorem daysBeforeYear_yearOf (days : Int) :
    daysBeforeYear (yearOf days) ≤ days ∧ days < daysBeforeYear (yearOf days + 1) := by
  unfold yearOf
  simp only
  split
  · unfold daysBeforeYear at *
    omega
  · split
    · unfold daysBeforeYear at *
      omega
    · omega

end Date

namespace Instant

def lt (a b : Instant) : Bool :=
  a.seconds < b.seconds || (a.seconds = b.seconds && a.nanos < b.nanos)

def order (a b : Instant) : Ordering :=
  (compare a.seconds b.seconds).then (compare a.nanos b.nanos)

def daySeconds : Nat := 86400

def billion : Nat := 1000000000

def ofClock? (date : Date) (hour minute second nanos : Nat) (offset : Int) : Option Instant :=
  if date.valid ∧ hour < 24 ∧ minute < 60 ∧ second ≤ 60 then
    let (second, nanos) := if second = 60 then (59, nanos + billion) else (second, nanos)
    some ⟨date.toDays * daySeconds + (hour * 3600 + minute * 60 + second : Nat) - offset * 60, nanos⟩
  else none

end Instant

end TypedArtifacts
