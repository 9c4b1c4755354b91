import TypedArtifacts.Proofs.Catalog

/-! The types that a catalog serves at its endpoints. -/

namespace TypedArtifacts.Catalog

lemma find?_eq_some_least {α : Type} {R : α → α → Prop} {l : List α} {p : α → Bool} {a : α}
    (hl : l.Pairwise R) (hasymm : ∀ a b, R a b → ¬R b a) :
    l.find? p = some a ↔ a ∈ l ∧ p a = true ∧ ∀ b ∈ l, p b = true → b = a ∨ R a b := by
  induction l with
  | nil => simp
  | cons x l ih =>
    obtain ⟨hx, hl⟩ := List.pairwise_cons.1 hl
    rw [List.find?_cons]
    cases hp : p x with
    | true =>
      constructor
      · intro h
        obtain rfl := Option.some.inj h
        exact ⟨List.mem_cons_self, hp, fun b hb _ => (List.mem_cons.1 hb).imp_right (hx b)⟩
      · rintro ⟨ha, _, hleast⟩
        rcases List.mem_cons.1 ha with rfl | ha
        · rfl
        · rcases hleast x List.mem_cons_self hp with rfl | hr
          · rfl
          · exact absurd hr (hasymm _ _ (hx a ha))
    | false =>
      rw [ih hl]
      constructor
      · rintro ⟨ha, hpa, hleast⟩
        exact ⟨.tail _ ha, hpa, List.forall_mem_cons.2 ⟨by simp [hp], hleast⟩⟩
      · rintro ⟨ha, hpa, hleast⟩
        rcases List.mem_cons.1 ha with rfl | ha
        · cases hp.symm.trans hpa
        · exact ⟨ha, hpa, fun b hb => hleast b (.tail _ hb)⟩

def AllServed (c : Catalog) : Prop :=
  ∀ t ∈ c.types, c.byEndpoint t.endpoint (some t.version) = .ok t

def Apart (c : Catalog) : Prop :=
  ∀ t ∈ c.types, ∀ u ∈ c.types, t.endpoint = u.endpoint → t.version = u.version → t = u

lemma apart_place {c : Catalog} {t : ArtifactType} : Apart ⟨place t c.types⟩ ↔
    c.Apart ∧ ∀ u ∈ c.types, u.endpoint = t.endpoint → u.version = t.version → u = t := by
  constructor
  · intro h
    refine ⟨fun u hu w hw => h u (mem_place.2 (Or.inr hu)) w (mem_place.2 (Or.inr hw)), ?_⟩
    exact fun u hu => h u (mem_place.2 (Or.inr hu)) t (mem_place.2 (Or.inl rfl))
  · rintro ⟨h, hnew⟩ u hu w hw he hv
    rcases mem_place.1 hu with rfl | hold
    · rcases mem_place.1 hw with rfl | hw
      · rfl
      · exact (hnew w hw he.symm hv.symm).symm
    · rcases mem_place.1 hw with rfl | hw
      · exact hnew u hold he hv
      · exact h u hold w hw he hv

section

variable [Predicates Artifact] {t u : ArtifactType} {c c' : Catalog} {endpoint version : String}

lemma le_name_iff (hc : c.Registered) (ht : t ∈ c.types) (hu : u ∈ c.types)
    (hv : u.version = t.version) : u = t ∨ precedes t u = true ↔ t.name ≤ u.name := by
  constructor
  · rintro (rfl | h)
    · exact String.le_refl _
    · rcases precedes_iff.1 h with h | ⟨_, h⟩
      · exact String.not_lt.1 (String.lt_asymm h)
      · exact absurd (hv ▸ h) (String.lt_irrefl _)
  · intro hle
    by_cases hkey : sharesKey t u = true
    · exact Or.inl (hc.unique u hu t ht (sharesKey_iff.1 hkey).1 hv)
    · refine Or.inr ((precedes_total hkey).resolve_right fun h => ?_)
      rcases precedes_iff.1 h with h | ⟨_, h⟩
      · exact String.not_lt.2 hle h
      · exact absurd (hv ▸ h) (String.lt_irrefl _)

lemma byEndpoint_eq_ok (hc : c.Registered) : c.byEndpoint endpoint (some version) = .ok t ↔
    t ∈ c.types ∧ t.endpoint = endpoint ∧ t.version = version ∧
      ∀ u ∈ c.types, u.endpoint = endpoint → u.version = version → t.name ≤ u.name := by
  have hfind : c.byEndpoint endpoint (some version) = .ok t ↔
      (c.types.filter (·.endpoint = endpoint)).find? (·.version = version) = some t := by
    rw [byEndpoint, choose?]
    split
    · rename_i he
      rw [he, Except.ok.injEq, Option.some.injEq]
    · rename_i he
      simp [he]
  rw [hfind, List.find?_filter, find?_eq_some_least hc.pairwise fun _ _ => precedes_asymm]
  simp only [decide_eq_true_eq]
  constructor
  · rintro ⟨ht, ⟨he, hv⟩, hleast⟩
    refine ⟨ht, he, hv, fun u hu hue huv => ?_⟩
    exact (le_name_iff hc ht hu (huv.trans hv.symm)).1 (hleast u hu ⟨hue, huv⟩)
  · rintro ⟨ht, he, hv, hleast⟩
    refine ⟨ht, ⟨he, hv⟩, fun u hu hmatches => ?_⟩
    have huv := hmatches.2.trans hv.symm
    exact (le_name_iff hc ht hu huv).2 (hleast u hu hmatches.1 hmatches.2)

lemma allServed_iff (hc : c.Registered) : c.AllServed ↔ c.Apart := by
  constructor
  · intro h t ht u hu he hv
    have hut := h u hu
    rw [← he, ← hv, h t ht] at hut
    exact Except.ok.inj hut
  · intro h t ht
    refine (byEndpoint_eq_ok hc).2 ⟨ht, rfl, rfl, fun u hu he hv => ?_⟩
    obtain rfl := h u hu t ht he hv
    exact String.le_refl _

/-- Names and versions are kept apart as types are registered, endpoints are not: of the types that
share one in the same version that of the least name hides the others. -/
theorem Registered.served (hc : c.Registered) :
    (∀ endpoint version t, c.byEndpoint endpoint (some version) = .ok t ↔
      t ∈ c.types ∧ t.endpoint = endpoint ∧ t.version = version ∧
        ∀ u ∈ c.types, u.endpoint = endpoint → u.version = version → t.name ≤ u.name) ∧
    (c.AllServed ↔ c.Apart) ∧
    ∀ t c', t.Declared → c.register t = .ok c' → (c'.AllServed ↔
      c.AllServed ∧ ∀ u ∈ c.types, u.endpoint = t.endpoint → u.version ≠ t.version) := by
  refine ⟨fun _ _ _ => byEndpoint_eq_ok hc, allServed_iff hc, fun t c' ht hr => ?_⟩
  rw [allServed_iff (.register hc ht hr), allServed_iff hc]
  obtain ⟨hnew, rfl⟩ := register_ok hr
  rw [apart_place]
  refine and_congr_right fun _ => forall₂_congr fun u hu => imp_congr_right fun _ => ?_
  constructor
  · intro h hv
    exact hnew u hu (by rw [h hv]) hv
  · exact fun h hv => absurd hv h

end

namespace Sample

attribute [local instance] Predicates.parityAndSize

def shared : List ArtifactType :=
  [edition "image" "1.0.0" "image", edition "Image" "1.0.0" "image",
    edition "Image" "1.1.0" "image"]

lemma declared_shared : ∀ t ∈ shared, t.Declared := by
  intro t ht
  simp only [shared, List.mem_cons, List.not_mem_nil, or_false] at ht
  rcases ht with rfl | rfl | rfl <;> exact declared_edition (by decide) (by decide)

lemma registered_shared : (ofTypes shared).Registered :=
  registered_ofTypes declared_shared

lemma small_shared : edition "image" "1.0.0" "image" ∈ (ofTypes shared).types :=
  (mem_ofTypes declared_shared).2 rfl

lemma capital_shared : edition "Image" "1.0.0" "image" ∈ (ofTypes shared).types :=
  (mem_ofTypes declared_shared).2 rfl

theorem served_shared : (ofTypes shared).Registered ∧
    (ofTypes shared).byEndpoint "image" (some "1.0.0") = .ok (edition "Image" "1.0.0" "image") ∧
    ¬(ofTypes shared).AllServed := by
  obtain ⟨hfound, hall, -⟩ := registered_shared.served
  refine ⟨registered_shared, (hfound _ _ _).2 ⟨capital_shared, rfl, rfl, fun u hu he hv => ?_⟩, ?_⟩
  · have hmem := List.mem_of_find?_eq_some ((mem_ofTypes declared_shared).1 hu)
    simp only [shared, List.mem_cons, List.not_mem_nil, or_false] at hmem
    rcases hmem with rfl | rfl | rfl
    · decide
    · decide
    · exact absurd hv (by decide)
  · intro h
    have hsame := hall.1 h _ small_shared _ capital_shared rfl rfl
    exact absurd (congrArg (·.name) hsame) (by decide)

/-- Both types are registered under names of their own, and one is served in place of the other. -/
theorem endpoint_shared : ¬∀ c : Catalog, c.Registered →
    ∀ t ∈ c.types, c.byEndpoint t.endpoint (some t.version) = .ok t := by
  intro h
  have hfirst := h _ registered_shared _ small_shared
  have hsecond := h _ registered_shared _ capital_shared
  have hsame := hfirst.symm.trans hsecond
  exact absurd (congrArg (·.name) (Except.ok.inj hsame)) (by decide)

end Sample

end TypedArtifacts.Catalog
