import TypedArtifacts.Definition.Normal
import TypedArtifacts.Definition.Validation
import TypedArtifacts.Proofs.Definition

namespace TypedArtifacts.Definition

variable {ρ : Type}

lemma normalizeScalar_idem (s : Scalar) (v : Value ρ) :
    normalizeScalar s (normalizeScalar s v) = normalizeScalar s v := by
  cases s <;> cases v <;> rfl

lemma normalizeItems_idem {items : List (Definition ρ)}
    (h : ∀ d ∈ items, ∀ v, d.normalize (d.normalize v) = d.normalize v) (vs : List (Value ρ)) :
    normalizeItems items (normalizeItems items vs) = normalizeItems items vs := by
  induction items generalizing vs with
  | nil => rfl
  | cons d ds ih =>
    cases vs with
    | nil => rfl
    | cons v vs =>
      have hd := h d List.mem_cons_self v
      have hds := ih (fun p hp => h p (List.mem_cons_of_mem _ hp)) vs
      simp only [normalizeItems, hd, hds]

lemma normalizeKey_idem {keys : List (String × Definition ρ)}
    (h : ∀ e ∈ keys, ∀ v, e.2.normalize (e.2.normalize v) = e.2.normalize v) (key : String)
    (v : Value ρ) : normalizeKey keys key (normalizeKey keys key v) = normalizeKey keys key v := by
  induction keys with
  | nil => rfl
  | cons e keys ih =>
    simp only [normalizeKey]
    split
    · exact h e List.mem_cons_self v
    · exact ih fun p hp => h p (List.mem_cons_of_mem _ hp)

theorem normalize_idem (d : Definition ρ) (v : Value ρ) :
    d.normalize (d.normalize v) = d.normalize v := by
  induction d using Definition.induction generalizing v with
  | h d ih =>
    obtain ⟨t, kind⟩ := d
    simp only [Definition.normalize]
    cases kind with
    | scalar s => exact normalizeScalar_idem s v
    | list item =>
      have hitem := ih item (List.mem_singleton_self _)
      cases v with
      | list vs => simp [normalizeKind, Function.comp_def, hitem]
      | _ => rfl
    | tuple items =>
      cases v with
      | list vs => exact congrArg Value.list (normalizeItems_idem ih vs)
      | _ => rfl
    | dict value =>
      have hvalue := ih value (List.mem_singleton_self _)
      cases v with
      | dict es => simp [normalizeKind, Function.comp_def, hvalue]
      | _ => rfl
    | composite keys =>
      have hpart : ∀ e ∈ keys, ∀ v, e.2.normalize (e.2.normalize v) = e.2.normalize v :=
        fun e he => ih e.2 (List.mem_map_of_mem he)
      have hkeys := normalizeKey_idem hpart
      cases v with
      | dict es => simp [normalizeKind, Function.comp_def, hkeys]
      | _ => rfl
    | relation => rfl
    | blob => rfl

def Canonical [Referent ρ] [Predicates ρ] (d : Definition ρ) (v : Value ρ) : Prop :=
  d.validate (some v) = .ok () ∧ d.normalize v = v

end TypedArtifacts.Definition
