import TypedArtifacts.Catalog
import TypedArtifacts.Proofs.Definition
import TypedArtifacts.Proofs.Outcome

namespace TypedArtifacts

lemma Descriptor.dotless {name : String} (h : isAttributeName name = true) : '.' ∉ name.toList := by
  unfold isAttributeName at h
  cases hc : name.toList with
  | nil => simp
  | cons c cs =>
    simp only [hc, Bool.and_eq_true, List.all_eq_true] at h
    obtain ⟨⟨hhead, htail⟩, _⟩ := h
    intro hm
    rcases List.mem_cons.1 hm with rfl | hm
    · exact absurd hhead (by decide)
    · exact absurd (htail _ hm) (by decide)

lemma Catalog.register_ok {c c' : Catalog} {t : ArtifactType} (h : c.register t = .ok c') :
    (∀ u ∈ c.types, u.name = t.name → u.version ≠ t.version) ∧ c' = ⟨Catalog.place t c.types⟩ := by
  unfold Catalog.register at h
  split at h
  · cases h
  · rename_i hn
    refine ⟨fun u hu hname hversion => hn ?_, (Except.ok.inj h).symm⟩
    exact List.any_eq_true.2 ⟨u, hu, by simp [hname, hversion]⟩

lemma Catalog.mem_of_byName {c : Catalog} {name version : String} {t : ArtifactType}
    (h : c.byName name (some version) = .ok t) :
    t ∈ c.types ∧ t.name = name ∧ t.version = version := by
  rw [byName, choose?] at h
  cases hf : (c.types.filter (·.name = name)).find? (·.version = version) with
  | none => simp [hf] at h
  | some u =>
    simp only [hf] at h
    obtain rfl := Except.ok.inj h
    obtain ⟨hm, hname⟩ := List.mem_filter.1 (List.mem_of_find?_eq_some hf)
    have hversion := List.find?_some hf
    exact ⟨hm, by simpa using hname, by simpa using hversion⟩

section

variable [Predicates Artifact]

inductive ArtifactType.Declared : ArtifactType → Prop
  | declare {d : Descriptor} {t : ArtifactType} : (∀ p, d.parent = some p → Declared p) →
      (∀ e ∈ d.attributes, e.2.Built) → d.declare = .ok t → Declared t

structure Definition.Admitted (name : String) (d : Definition Artifact) : Prop where
  isName : Descriptor.isAttributeName name = true
  named : d.name = some name
  built : d.Built
  default_valid : ∀ v, d.default = some v → d.validateAs name (some v) = .ok ()

namespace Descriptor

lemma checkDefault_valid {name : String} {d : Definition Artifact}
    (h : d.checkDeclaration name = .ok ()) :
    ∀ v, d.default = some v → d.validateAs name (some v) = .ok () := by
  obtain ⟨t, kind⟩ := d
  rw [Definition.checkDeclaration, Outcome.bind_eq_ok] at h
  obtain ⟨_, _, h⟩ := h
  obtain ⟨_, _, h⟩ := Outcome.bind_eq_ok.1 h
  obtain ⟨_, _, h⟩ := Outcome.bind_eq_ok.1 h
  rw [Definition.checkValues, Outcome.bind_eq_ok] at h
  obtain ⟨_, _, h⟩ := h
  intro v hv
  rw [Definition.checkDefault, hv] at h
  exact Outcome.mapError_eq_ok.1 h

lemma declareAttribute_eq_ok {before : List String} {name : String} {d e : Definition Artifact} :
    declareAttribute before name d = .ok e ↔ isAttributeName name = true ∧ name ∉ commonFields ∧
      name ∉ before ∧ d.assignName name = .ok e ∧ e.checkDeclaration name = .ok () := by
  unfold declareAttribute
  simp only [Outcome.guard_eq_ok, Outcome.bind_eq_ok, Bool.not_eq_true', Bool.not_eq_false,
    List.contains_iff_mem]
  constructor
  · rintro ⟨hn, hr, hb, d', ha, _, hc, he⟩
    obtain rfl := Except.ok.inj he
    exact ⟨hn, hr, hb, ha, hc⟩
  · rintro ⟨hn, hr, hb, ha, hc⟩
    exact ⟨hn, hr, hb, e, ha, (), hc, rfl⟩

lemma declareAttribute_ok {before : List String} {name : String} {d e : Definition Artifact}
    (hd : d.Built) (h : declareAttribute before name d = .ok e) : e.Admitted name := by
  obtain ⟨hn, _, _, ha, hc⟩ := declareAttribute_eq_ok.1 h
  have hnamed : e.name = some name := by rw [Definition.assignName_eq ha]
  exact ⟨hn, hnamed, .named hd ha, checkDefault_valid hc⟩

lemma declare_eq_ok {d : Descriptor} {t : ArtifactType} (h : d.declare = .ok t) :
    t.mutability = d.effectiveMutability ∧
      declareAttributes [] ((d.parent.map (·.attributes)).getD []) d.attributes =
        .ok t.attributes ∧ checkMutability t.attributes t.mutability = .ok () := by
  unfold declare at h
  simp only [Outcome.guard_eq_ok, Outcome.bind_eq_ok] at h
  obtain ⟨_, _, attributes, ha, _, hm, ht⟩ := h
  obtain rfl := Except.ok.inj ht
  exact ⟨rfl, ha, hm⟩

lemma declareAttributes_ok {P : String → Definition Artifact → Prop}
    (hnew : ∀ before name (d e : Definition Artifact), d.Built →
      declareAttribute before name d = .ok e → P name e)
    {before : List String} {all given result : List (String × Definition Artifact)}
    (hall : Dict.Sorted all ∧ ∀ e ∈ all, P e.1 e.2) (hgiven : ∀ e ∈ given, e.2.Built)
    (h : declareAttributes before all given = .ok result) :
    Dict.Sorted result ∧ ∀ e ∈ result, P e.1 e.2 := by
  induction given generalizing before all with
  | nil =>
    obtain rfl := Except.ok.inj h
    exact hall
  | cons e given ih =>
    rw [declareAttributes, Outcome.bind_eq_ok] at h
    obtain ⟨d, hd, h⟩ := h
    have had := hnew _ _ _ _ (hgiven e List.mem_cons_self) hd
    refine ih ⟨hall.1.insert _ _, fun x hx => ?_⟩ (fun x hx => hgiven x (List.mem_cons_of_mem _ hx)) h
    rcases Dict.mem_insert hx with rfl | hx
    · exact had
    · exact hall.2 x hx

end Descriptor

lemma ArtifactType.Declared.forall_attributes {P : String → Definition Artifact → Prop}
    (hnew : ∀ before name (d e : Definition Artifact), d.Built →
      Descriptor.declareAttribute before name d = .ok e → P name e)
    {t : ArtifactType} (h : t.Declared) :
    Dict.Sorted t.attributes ∧ ∀ e ∈ t.attributes, P e.1 e.2 := by
  induction h with
  | @declare d t _ hbuilt hd ih =>
    obtain ⟨_, ha, _⟩ := Descriptor.declare_eq_ok hd
    refine Descriptor.declareAttributes_ok hnew ?_ hbuilt ha
    cases hp : d.parent with
    | none => exact ⟨.nil, by simp⟩
    | some p => exact ih p hp

lemma ArtifactType.Declared.attributes {t : ArtifactType} (h : t.Declared) :
    Dict.Sorted t.attributes ∧ ∀ e ∈ t.attributes, e.2.Admitted e.1 :=
  h.forall_attributes fun _ _ _ _ => Descriptor.declareAttribute_ok

namespace Catalog

inductive Registered : Catalog → Prop
  | empty : Registered {}
  | register {c c' : Catalog} {t : ArtifactType} : Registered c → t.Declared →
      c.register t = .ok c' → Registered c'

lemma Registered.declared {c : Catalog} (h : c.Registered) : ∀ t ∈ c.types, t.Declared := by
  induction h with
  | empty => simp
  | register _ ht hr ih =>
    obtain ⟨_, rfl⟩ := register_ok hr
    intro u hu
    rcases mem_place.1 hu with rfl | hu
    · exact ht
    · exact ih u hu

lemma Registered.unique {c : Catalog} (h : c.Registered) : ∀ t ∈ c.types, ∀ u ∈ c.types,
    t.name = u.name → t.version = u.version → t = u := by
  induction h with
  | empty => simp
  | register _ _ hr ih =>
    obtain ⟨hnew, rfl⟩ := register_ok hr
    intro t ht u hu hname hversion
    rcases mem_place.1 ht with rfl | hold
    · rcases mem_place.1 hu with rfl | hu
      · rfl
      · exact absurd hversion.symm (hnew u hu hname.symm)
    · rcases mem_place.1 hu with rfl | hu
      · exact absurd hversion (hnew t hold hname)
      · exact ih t hold u hu hname hversion

theorem Registered.byName_eq {c : Catalog} (h : c.Registered) {t : ArtifactType}
    (ht : t ∈ c.types) : c.byName t.name (some t.version) = .ok t := by
  have hf : (c.types.filter (·.name = t.name)).find? (·.version = t.version) = some t := by
    cases hu : (c.types.filter (·.name = t.name)).find? (·.version = t.version) with
    | none =>
      have hn := List.find?_eq_none.1 hu t (List.mem_filter.2 ⟨ht, by simp⟩)
      simp at hn
    | some u =>
      obtain ⟨hm, hname⟩ := List.mem_filter.1 (List.mem_of_find?_eq_some hu)
      have hversion := List.find?_some hu
      rw [h.unique u hm t ht (by simpa using hname) (by simpa using hversion)]
  simp only [byName, choose?, hf]

end Catalog

end

end TypedArtifacts
