import TypedArtifacts.Decimal.Shortest

namespace TypedArtifacts

structure NumberStyle where
  tie : Decimal.Tie
  positional : Option (Int × Int)
  wholeFraction : Bool
  nan : String
  infinity : String

namespace NumberStyle

def zeros (n : Nat) : List Char :=
  List.replicate n '0'

def isPositional (style : NumberStyle) (point : Int) : Bool :=
  match style.positional with
  | none => true
  | some (least, most) => least ≤ point ∧ point ≤ most

def exponentText (e : Int) : List Char :=
  (if 0 ≤ e then '+' else '-') :: Nat.toDigits 10 e.natAbs

def positionalText (style : NumberStyle) (digits : List Char) (point : Int) : List Char :=
  if digits.length ≤ point then
    digits ++ zeros (point - digits.length).toNat ++ (if style.wholeFraction then ['.', '0'] else [])
  else if 0 < point then digits.take point.toNat ++ '.' :: digits.drop point.toNat
  else '0' :: '.' :: (zeros (-point).toNat ++ digits)

def scientificText (digits : List Char) (point : Int) : List Char :=
  match digits with
  | [] => []
  | [d] => d :: 'e' :: exponentText (point - 1)
  | d :: rest => d :: '.' :: rest ++ 'e' :: exponentText (point - 1)

def decimalText (style : NumberStyle) (d : Decimal) : List Char :=
  let digits := Nat.toDigits 10 d.digits
  let point : Int := digits.length + d.exponent
  if style.isPositional point then style.positionalText digits point else scientificText digits point

def write (style : NumberStyle) : Binary64 → String
  | .nan => style.nan
  | .infinite negative => (if negative then "-" else "") ++ style.infinity
  | .finite negative m e =>
    let text := style.decimalText (Decimal.shortest style.tie m e)
    String.ofList (if negative then '-' :: text else text)

end NumberStyle

end TypedArtifacts
