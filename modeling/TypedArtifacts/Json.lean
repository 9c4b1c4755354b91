import TypedArtifacts.Binary64
import TypedArtifacts.Dict

/-!
JSON values. Whole and fractional numbers are apart, and the keys of an object ascend.
-/

namespace TypedArtifacts

inductive Json where
  | null
  | bool (b : Bool)
  | int (n : Int)
  | float (x : Binary64)
  | str (s : String)
  | arr (items : List Json)
  | obj (fields : List (String × Json))

namespace Json

def ofFloat (x : Binary64) : Json :=
  if x.isFinite then float x else null

def ofNat (n : Nat) : Json :=
  int n

def ofOption {α : Type} (f : α → Json) : Option α → Json
  | none => null
  | some a => f a

def ofStrings (items : List String) : Json :=
  arr (items.map str)

def record (fields : List (String × Json)) : Json :=
  obj (Dict.ofList fields)

def minInt64 : Int := -9223372036854775808

def maxInt64 : Int := 9223372036854775807

def isNull : Json → Bool
  | null => true
  | _ => false

def bool? : Json → Option Bool
  | bool b => some b
  | _ => none

def str? : Json → Option String
  | str s => some s
  | _ => none

def int64? : Json → Option Int
  | int n => if minInt64 ≤ n ∧ n ≤ maxInt64 then some n else none
  | _ => none

def nat64? : Json → Option Nat
  | int n => if 0 ≤ n ∧ n < UInt64.size then some n.toNat else none
  | _ => none

def number? : Json → Option Binary64
  | int n => some (Binary64.ofInt n)
  | float x => some x
  | _ => none

def arr? : Json → Option (List Json)
  | arr items => some items
  | _ => none

def obj? : Json → Option (List (String × Json))
  | obj fields => some fields
  | _ => none

def get? (key : String) (j : Json) : Option Json :=
  j.obj?.bind (·.lookup key)

theorem ofFloat_finite (s : Bool) (m : Nat) (e : Int) :
    ofFloat (.finite s m e) = float (.finite s m e) := rfl

theorem int64?_int {n : Int} (lo : minInt64 ≤ n) (hi : n ≤ maxInt64) :
    (int n).int64? = some n := by
  simp [int64?, lo, hi]

end Json

end TypedArtifacts
