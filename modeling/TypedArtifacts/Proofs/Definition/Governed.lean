import TypedArtifacts.Proofs.Definition.Conforming

/-! The parts of a value, each with the definition that is for it, and the form they are to have. -/

namespace TypedArtifacts

variable {ρ : Type}

def Scalar.isVariant : Scalar → Value ρ → Bool
  | .string, .string _ => true
  | .text, .text _ => true
  | .integer, .integer _ => true
  | .numeric, .numeric _ => true
  | .boolean, .boolean _ => true
  | .datetime, .instant _ => true
  | _, _ => false

def Kind.isVariant {δ : Type} : Kind δ → Value ρ → Bool
  | .scalar s, v => s.isVariant v
  | .list _, .list _ => true
  | .tuple _, .list _ => true
  | .dict _, .dict _ => true
  | .composite _, .dict _ => true
  | .relation, .artifact _ => true
  | .blob, .blob _ => true
  | _, _ => false

lemma Scalar.holds_iff {s : Scalar} {v : Value ρ} : s.Holds v ↔ s.isVariant v = true := by
  cases s <;> cases v <;>
    simp [Holds, isVariant, shape, Shape.fits, Definition.normalizeScalar]

namespace Definition

inductive Governs (p : Definition ρ) (w : Value ρ) : Definition ρ → Value ρ → Prop
  | whole : Governs p w p w
  | item {d q : Definition ρ} {vs : List (Value ρ)} {v : Value ρ} {i : ℕ} :
      d.itemAt? i = some q → vs[i]? = some v → Governs p w q v → Governs p w d (.list vs)
  | entry {d q : Definition ρ} {es : List (String × Value ρ)} {e : String × Value ρ} :
      d.valueAt? e.1 = some q → e ∈ es → Governs p w q e.2 → Governs p w d (.dict es)

theorem Governs.descend {P : Definition ρ → Value ρ → Prop}
    (hitem : ∀ {d q : Definition ρ} {vs : List (Value ρ)} {i : ℕ} {v : Value ρ}, P d (.list vs) →
      d.itemAt? i = some q → vs[i]? = some v → P q v)
    (hentry : ∀ {d q : Definition ρ} {es : List (String × Value ρ)} {e : String × Value ρ},
      P d (.dict es) → d.valueAt? e.1 = some q → e ∈ es → P q e.2)
    {p d : Definition ρ} {u v : Value ρ} (hg : Governs p u d v) (h : P d v) : P p u := by
  induction hg with
  | whole => exact h
  | item hq hv _ ih => exact ih (hitem h hq hv)
  | entry hq he _ ih => exact ih (hentry h hq he)

structure Fits (d : Definition ρ) (v : Value ρ) : Prop where
  variant : d.kind.isVariant v = true
  arity : ∀ items vs, d.kind = .tuple items → v = .list vs → vs.length ≤ items.length
  declared : ∀ keys es, d.kind = .composite keys → v = .dict es →
    ∀ e ∈ es, (keys.lookup e.1).isSome = true

lemma fits_tuple {t : Traits ρ} {items : List (Definition ρ)} {vs : List (Value ρ)}
    (h : vs.length ≤ items.length) : Fits ⟨t, .tuple items⟩ (.list vs) := by
  refine ⟨rfl, fun items' vs' hk hv => ?_, nofun⟩
  obtain rfl := Kind.tuple.inj hk
  obtain rfl := Value.list.inj hv
  exact h

lemma fits_composite {t : Traits ρ} {keys : List (String × Definition ρ)}
    {es : List (String × Value ρ)} (h : ∀ e ∈ es, (keys.lookup e.1).isSome = true) :
    Fits ⟨t, .composite keys⟩ (.dict es) := by
  refine ⟨rfl, nofun, fun keys' es' hk hv => ?_⟩
  obtain rfl := Kind.composite.inj hk
  obtain rfl := Value.dict.inj hv
  exact h

def FitsThroughout (d : Definition ρ) (v : Value ρ) : Prop :=
  ∀ p u, Governs p u d v → p.Fits u

namespace FitsThroughout

variable {d q : Definition ρ} {v : Value ρ}

lemma fits (h : d.FitsThroughout v) : d.Fits v :=
  h d v .whole

lemma item {vs : List (Value ρ)} {i : ℕ} (h : d.FitsThroughout (.list vs))
    (hq : d.itemAt? i = some q) (hv : vs[i]? = some v) : q.FitsThroughout v :=
  fun p u hg => h p u (.item hq hv hg)

lemma entry {es : List (String × Value ρ)} {e : String × Value ρ}
    (h : d.FitsThroughout (.dict es)) (hq : d.valueAt? e.1 = some q) (he : e ∈ es) :
    q.FitsThroughout e.2 :=
  fun p u hg => h p u (.entry hq he hg)

end FitsThroughout

namespace Conforms

variable {d q : Definition ρ} {v : Value ρ}

lemma item {vs : List (Value ρ)} {i : ℕ} (h : d.Conforms (.list vs)) (hq : d.itemAt? i = some q)
    (hv : vs[i]? = some v) : q.Conforms v := by
  cases h with
  | scalar h => exact absurd (Scalar.holds_iff.1 h) (by simp [Scalar.isVariant])
  | list h =>
    obtain rfl := Option.some.inj hq
    exact h v (List.mem_of_getElem? hv)
  | tuple _ h => exact h (q, v) (List.mem_of_getElem? (List.getElem?_zip_eq_some.2 ⟨hq, hv⟩))

lemma entry {es : List (String × Value ρ)} {e : String × Value ρ} (h : d.Conforms (.dict es))
    (hq : d.valueAt? e.1 = some q) (he : e ∈ es) : q.Conforms e.2 := by
  cases h with
  | scalar h => exact absurd (Scalar.holds_iff.1 h) (by simp [Scalar.isVariant])
  | dict _ h =>
    obtain rfl := Option.some.inj hq
    exact h e he
  | composite _ _ h => exact h e he q hq

lemma fits (h : d.Conforms v) : d.Fits v := by
  cases h with
  | scalar h => exact ⟨Scalar.holds_iff.1 h, nofun, nofun⟩
  | list _ => exact ⟨rfl, nofun, nofun⟩
  | tuple hl _ => exact fits_tuple hl
  | dict _ _ => exact ⟨rfl, nofun, nofun⟩
  | composite _ hdecl _ => exact fits_composite hdecl
  | relation _ => exact ⟨rfl, nofun, nofun⟩
  | blob _ => exact ⟨rfl, nofun, nofun⟩

lemma fitsThroughout (h : d.Conforms v) : d.FitsThroughout v :=
  fun _ _ hg => (hg.descend item entry h).fits

end Conforms

end Definition

end TypedArtifacts
