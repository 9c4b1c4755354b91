import Mathlib.Tactic
import TypedArtifacts.ArtifactType
import TypedArtifacts.Assignment.Links

namespace TypedArtifacts

namespace Handle

variable {α η : Type} [Handle η α] {n steps bound : ℕ} {x y : η} {a b : α}

inductive Under : ℕ → η → α → Prop
  | base {x : η} {a : α} : look x = .base a → Under 0 x a
  | layer {n : ℕ} {x y : η} {a : α} : look x = .layer y → Under n y a → Under (n + 1) x a

lemma walk?_base (h : look x = .base a) : walk? (steps + 1) x = some a := by
  rw [walk?, h]

lemma walk?_layer (h : look x = .layer y) : walk? (steps + 1) x = walk? steps y := by
  rw [walk?, h]

lemma Under.walk? (h : Under n x a) (steps : ℕ) :
    walk? steps x = if n < steps then some a else none := by
  induction h generalizing steps with
  | base hx =>
    cases steps with
    | zero => rfl
    | succ steps => rw [walk?_base hx, if_pos steps.succ_pos]
  | layer hx _ ih =>
    cases steps with
    | zero => rfl
    | succ steps =>
      rw [walk?_layer hx, ih]
      simp

lemma exists_under (h : walk? steps x = some a) : ∃ n < steps, Under n x a := by
  induction steps generalizing x with
  | zero => cases h
  | succ steps ih =>
    cases hx : look x with
    | base b =>
      rw [walk?_base hx] at h
      obtain rfl := Option.some.inj h
      exact ⟨0, steps.succ_pos, .base hx⟩
    | layer y =>
      rw [walk?_layer hx] at h
      obtain ⟨n, hn, hy⟩ := ih h
      exact ⟨n + 1, Nat.succ_lt_succ hn, .layer hx hy⟩

lemma Under.unwrap? (h : Under n x a) (bound : ℕ) :
    unwrap? bound x = if n ≤ bound then some a else none := by
  rw [Handle.unwrap?, h.walk?]
  simp only [Nat.lt_succ_iff]

lemma unwrap?_eq_some : unwrap? bound x = some a ↔ ∃ n ≤ bound, Under n x a := by
  constructor
  · intro h
    obtain ⟨n, hn, hx⟩ := exists_under h
    exact ⟨n, Nat.le_of_lt_succ hn, hx⟩
  · rintro ⟨n, hn, hx⟩
    rw [hx.unwrap?, if_pos hn]

end Handle

namespace Layered

variable {α : Type}

lemma under (l : Layered α) : Handle.Under l.depth l l.innermost := by
  induction l with
  | base a => exact .base rfl
  | layer inner ih => exact .layer rfl ih

theorem unwrap?_eq (bound : ℕ) (l : Layered α) :
    Handle.unwrap? bound l = if l.depth ≤ bound then some l.innermost else none :=
  l.under.unwrap? bound

end Layered

namespace Links

variable {η : Type} [Handle η Artifact]

/-- An artifact is found under as many layers as are allowed and no more, and a handle without one
is refused like a handle with too many layers. -/
theorem unwrap_exact (l : Links) (x : η) :
    (∀ n a, Handle.Under n x a →
      l.unwrap x = if n ≤ l.bound then .ok a else .error (.link (.tooDeep l.bound))) ∧
    ((∀ n a, ¬Handle.Under n x a) → l.unwrap x = .error (.link (.tooDeep l.bound))) := by
  constructor
  · intro n a h
    rw [unwrap, h.unwrap?]
    by_cases hn : n ≤ l.bound
    · simp only [if_pos hn]
    · simp only [if_neg hn]
  · intro hnone
    rw [unwrap]
    cases hx : Handle.unwrap? l.bound x with
    | none => rfl
    | some a =>
      obtain ⟨n, _, h⟩ := Handle.unwrap?_eq_some.1 hx
      exact absurd h (hnone n a)

namespace Sample

inductive Proxy where
  | artifact (a : Artifact)
  | dependency (inner : Proxy)
  | location (inner : Proxy)
  | update (inner : Proxy)
  | mirror

instance : Handle Proxy Artifact where
  look
    | .artifact a => .base a
    | .dependency inner => .layer inner
    | .location inner => .layer inner
    | .update inner => .layer inner
    | .mirror => .layer .mirror

def emptyType : ArtifactType where
  name := "Empty"
  version := "1.0.0"
  displayName := "Empty"
  description := none
  endpoint := "empty"
  mutability := .whileState .creating
  attributes := []

def base : Artifact :=
  .blank emptyType "base" ⟨0, 0⟩

def wrapped : Proxy :=
  .update (.location (.dependency (.artifact base)))

def allowing (bound : ℕ) : Links where
  lookup id := .error (.store (.notFound id))
  bound := bound

lemma under_wrapped : Handle.Under 3 wrapped base :=
  .layer rfl (.layer rfl (.layer rfl (.base rfl)))

lemma not_under_mirror (n : ℕ) (a : Artifact) : ¬Handle.Under n Proxy.mirror a := by
  induction n with
  | zero =>
    rintro ⟨h⟩
    cases h
  | succ n ih =>
    rintro (_ | ⟨h, hn⟩)
    cases h
    exact ih hn

theorem unwrap_exact_wrapped :
    Handle.Under 3 wrapped base ∧ (allowing 3).unwrap wrapped = .ok base ∧
      (allowing 2).unwrap wrapped = .error (.link (.tooDeep 2)) ∧
      (∀ n a, ¬Handle.Under n Proxy.mirror a) ∧
      (allowing 8).unwrap Proxy.mirror = .error (.link (.tooDeep 8)) :=
  ⟨under_wrapped, (unwrap_exact (allowing 3) wrapped).1 3 base under_wrapped,
    (unwrap_exact (allowing 2) wrapped).1 3 base under_wrapped, not_under_mirror,
    (unwrap_exact (allowing 8) Proxy.mirror).2 not_under_mirror⟩

end Sample

end Links

end TypedArtifacts
