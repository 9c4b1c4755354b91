import TypedArtifacts.Definition

namespace TypedArtifacts.Definition

variable {ρ : Type}

def normalizeScalar : Scalar → Value ρ → Value ρ
  | .text, .string s => .text s
  | .string, .text s => .string s
  | .numeric, .integer n => .numeric (Binary64.ofInt n.toInt)
  | _, v => v

mutual

def normalize : Definition ρ → Value ρ → Value ρ
  | ⟨_, kind⟩, v => normalizeKind kind v

def normalizeKind : Kind (Definition ρ) → Value ρ → Value ρ
  | .scalar s, v => normalizeScalar s v
  | .list item, .list vs => .list (vs.map item.normalize)
  | .tuple items, .list vs => .list (normalizeItems items vs)
  | .dict value, .dict es => .dict (es.map fun e => (e.1, value.normalize e.2))
  | .composite keys, .dict es => .dict (es.map fun e => (e.1, normalizeKey keys e.1 e.2))
  | _, v => v

def normalizeItems : List (Definition ρ) → List (Value ρ) → List (Value ρ)
  | [], vs => vs
  | _ :: _, [] => []
  | d :: ds, v :: vs => d.normalize v :: normalizeItems ds vs

def normalizeKey : List (String × Definition ρ) → String → Value ρ → Value ρ
  | [], _, v => v
  | (k, d) :: rest, key, v => if key = k then d.normalize v else normalizeKey rest key v

end

end TypedArtifacts.Definition
