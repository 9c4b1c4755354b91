import TypedArtifacts.Proofs.Artifact.Written
import TypedArtifacts.Proofs.Definition.FromJson

namespace TypedArtifacts

namespace Definition

variable {ρ : Type}

lemma Reads.children {d : Definition ρ} {v : Value ρ} (h : d.Reads v) :
    (∀ a, v ≠ .artifact a) ∧ ∀ u ∈ v.children, ∃ p : Definition ρ, p.Reads u := by
  obtain ⟨t, kind⟩ := d
  cases kind with
  | scalar s =>
    have hvariant := h.scalar
    cases v with
    | list _ | dict _ | artifact _ => cases s <;> cases hvariant
    | _ => exact ⟨by simp, List.forall_mem_nil _⟩
  | list item =>
    obtain ⟨vs, rfl, hvs⟩ := h.list
    exact ⟨by simp, fun u hu => ⟨item, hvs u hu⟩⟩
  | tuple items =>
    obtain ⟨vs, rfl, hl, hvs⟩ := h.tuple
    refine ⟨by simp, fun u hu => ?_⟩
    obtain ⟨i, hi, rfl⟩ := List.mem_iff_getElem.1 (show u ∈ vs from hu)
    have hzip : (items[i], vs[i]) ∈ items.zip vs := by
      rw [← List.getElem_zip (h := by rw [List.length_zip]; omega)]
      exact List.getElem_mem _
    exact ⟨items[i], hvs _ hzip⟩
  | dict value =>
    obtain ⟨es, rfl, hes⟩ := h.dict
    exact ⟨by simp, List.forall_mem_map.2 fun e he => ⟨value, hes e he⟩⟩
  | composite keys =>
    obtain ⟨es, rfl, hes⟩ := h.composite
    refine ⟨by simp, List.forall_mem_map.2 fun e he => ?_⟩
    obtain ⟨p, _, hp⟩ := hes e he
    exact ⟨p, hp⟩
  | relation =>
    obtain ⟨_, _, h⟩ := h.kind
    cases h
  | blob =>
    obtain ⟨_, _, h⟩ := h.kind
    cases h

lemma Reads.not_refers {d : Definition ρ} {v : Value ρ} (h : d.Reads v) (a : ρ) :
    ¬v.Refers a := by
  induction v using Value.induction generalizing d with
  | h v ih =>
    obtain ⟨hne, hchildren⟩ := h.children
    intro ha
    rcases Value.refers_cases ha with rfl | ⟨u, hu, ha⟩
    · exact hne a rfl
    · obtain ⟨p, hp⟩ := hchildren u hu
      exact ih u hu hp ha

lemma children_normalize {d : Definition ρ} {v : Value ρ} :
    (∀ a, d.normalize v = .artifact a → v = .artifact a) ∧
      ∀ u ∈ (d.normalize v).children, ∃ w ∈ v.children, u = w ∨ ∃ p : Definition ρ, u = p.normalize w := by
  obtain ⟨t, kind⟩ := d
  rw [Definition.normalize]
  have hkept : ∀ u ∈ v.children, ∃ w ∈ v.children, u = w ∨ ∃ p : Definition ρ, u = p.normalize w :=
    fun u hu => ⟨u, hu, Or.inl rfl⟩
  cases kind with
  | scalar s =>
    cases s <;> cases v <;> first
      | exact ⟨fun _ h => h, hkept⟩
      | exact ⟨by simp [normalizeKind, normalizeScalar], List.forall_mem_nil _⟩
  | list item =>
    cases v with
    | list vs =>
      refine ⟨by simp [normalizeKind], ?_⟩
      exact List.forall_mem_map.2 fun w hw => ⟨w, hw, Or.inr ⟨item, rfl⟩⟩
    | _ => exact ⟨fun _ h => h, hkept⟩
  | tuple items =>
    cases v with
    | list vs =>
      refine ⟨by simp [normalizeKind], fun u hu => ?_⟩
      rcases mem_normalizeItems hu with hm | ⟨p, _, w, hw, rfl⟩
      · exact ⟨u, hm, Or.inl rfl⟩
      · exact ⟨w, hw, Or.inr ⟨p, rfl⟩⟩
    | _ => exact ⟨fun _ h => h, hkept⟩
  | dict value =>
    cases v with
    | dict es =>
      refine ⟨by simp [normalizeKind], fun u hu => ?_⟩
      obtain ⟨e, he, rfl⟩ := List.mem_map.1 hu
      obtain ⟨x, hx, rfl⟩ := List.mem_map.1 he
      exact ⟨x.2, Value.mem_children_dict hx, Or.inr ⟨value, rfl⟩⟩
    | _ => exact ⟨fun _ h => h, hkept⟩
  | composite keys =>
    cases v with
    | dict es =>
      refine ⟨by simp [normalizeKind], fun u hu => ?_⟩
      obtain ⟨e, he, rfl⟩ := List.mem_map.1 hu
      obtain ⟨x, hx, rfl⟩ := List.mem_map.1 he
      refine ⟨x.2, Value.mem_children_dict hx, ?_⟩
      rcases normalizeKey_cases keys x.1 x.2 with hx | ⟨p, _, hp⟩
      · exact Or.inl hx
      · exact Or.inr ⟨p.2, hp⟩
    | _ => exact ⟨fun _ h => h, hkept⟩
  | relation => exact ⟨fun _ h => h, hkept⟩
  | blob => exact ⟨fun _ h => h, hkept⟩

lemma refers_of_normalize {d : Definition ρ} {v : Value ρ} {a : ρ}
    (h : (d.normalize v).Refers a) : v.Refers a := by
  induction v using Value.induction generalizing d with
  | h v ih =>
    obtain ⟨hartifact, hchildren⟩ := children_normalize (d := d) (v := v)
    rcases Value.refers_cases h with ha | ⟨u, hu, ha⟩
    · rw [hartifact a ha]
      exact .self
    · obtain ⟨w, hw, rfl | ⟨p, rfl⟩⟩ := hchildren u hu
      · exact .child hw ha
      · exact .child hw (ih w hw ha)

end Definition

end TypedArtifacts
