import TypedArtifacts.Definition.Normal

namespace TypedArtifacts

inductive Facet (ρ : Type) where
  | required
  | optional
  | readonly
  | immutable
  | mutable
  | displayName (text : String)
  | description (text : String)
  | pattern (source : String)
  | limit (l : Limit)
  | default (v : Value ρ)
  | allowedValues (values : List (Value ρ))
  | validator (slot message predicate : String)

namespace Definition

variable {ρ : Type}

def restrict (l : Limit) (d : Definition ρ) : Definition ρ :=
  if d.kind.admits l then d.install (.ofRule l.slot (.limit l))
  else d.misuse (.misplaced l.slot d.kind.label)

def apply : Facet ρ → Definition ρ → Definition ρ
  | .required, d => { d with required := true }
  | .optional, d => { d with required := false }
  | .readonly, d => { d with readonly := true }
  | .immutable, d => { d with mutable := false }
  | .mutable, d => if d.role = .dependency then d.misuse .relationMutable else { d with mutable := true }
  | .displayName text, d => { d with displayName := some text }
  | .description text, d => { d with description := some text }
  | .pattern source, d =>
    match Pattern.compile? source with
    | some p => d.restrict (.pattern p)
    | none => d.misuse (.badPattern source)
  | .limit l, d => d.restrict l
  | .default v, d => { d with default := some (d.normalize v) }
  | .allowedValues values, d =>
    d.install (.ofRule "allowed_values" (.allowedValues (values.map d.normalize)))
  | .validator slot message predicate, d => d.install ⟨slot, .custom predicate, message⟩

def applyAll (facets : List (Facet ρ)) (d : Definition ρ) : Definition ρ :=
  facets.foldl (fun d f => d.apply f) d

@[simp] theorem kind_restrict (l : Limit) (d : Definition ρ) : (d.restrict l).kind = d.kind := by
  unfold restrict
  split <;> rfl

@[simp] theorem kind_apply (f : Facet ρ) (d : Definition ρ) : (d.apply f).kind = d.kind := by
  cases f with
  | mutable =>
    simp only [apply]
    split <;> rfl
  | pattern source =>
    simp only [apply]
    split
    · exact kind_restrict _ d
    · rfl
  | limit l => exact kind_restrict l d
  | _ => rfl

end Definition

end TypedArtifacts
