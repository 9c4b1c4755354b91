import TypedArtifacts.Proofs.Artifact.Respect
import TypedArtifacts.Proofs.ArtifactType
import TypedArtifacts.Proofs.Version

namespace TypedArtifacts

namespace Catalog

def ofTypes (ts : List ArtifactType) : Catalog :=
  ts.foldl (fun c t => (c.register t).toOption.getD c) {}

def sharesKey (t u : ArtifactType) : Bool :=
  u.name = t.name && u.version = t.version

section

variable {t u w : ArtifactType} {ts : List ArtifactType} {c c' : Catalog}

lemma sharesKey_iff : sharesKey t u = true ↔ u.name = t.name ∧ u.version = t.version := by
  simp [sharesKey]

lemma find?_sharesKey (h : sharesKey t u = true) (ts : List ArtifactType) :
    ts.find? (sharesKey u) = ts.find? (sharesKey t) := by
  obtain ⟨hname, hversion⟩ := sharesKey_iff.1 h
  have heq : sharesKey u = sharesKey t := by
    funext w
    simp only [sharesKey, hname, hversion]
  rw [heq]

lemma precedes_iff : precedes t u = true ↔
    t.name < u.name ∨ t.name = u.name ∧ t.version < u.version := by
  simp [precedes]

lemma precedes_irrefl (t : ArtifactType) : ¬precedes t t = true := by
  rw [precedes_iff]
  rintro (h | ⟨_, h⟩)
  · exact String.lt_irrefl _ h
  · exact String.lt_irrefl _ h

lemma precedes_trans (h : precedes t u = true) (h' : precedes u w = true) :
    precedes t w = true := by
  rw [precedes_iff] at h h' ⊢
  rcases h with h | ⟨hn, hv⟩
  · rcases h' with h' | ⟨hn', _⟩
    · exact Or.inl (String.lt_trans h h')
    · exact Or.inl (hn' ▸ h)
  · rcases h' with h' | ⟨hn', hv'⟩
    · exact Or.inl (hn ▸ h')
    · exact Or.inr ⟨hn.trans hn', String.lt_trans hv hv'⟩

lemma precedes_asymm (h : precedes t u = true) : ¬precedes u t = true :=
  fun h' => precedes_irrefl t (precedes_trans h h')

lemma lt_of_ne_of_not_lt {a b : String} (hne : a ≠ b) (h : ¬a < b) : b < a := by
  by_contra hb
  exact hne (String.le_antisymm (String.not_lt.1 hb) (String.not_lt.1 h))

lemma precedes_total (h : ¬sharesKey t u = true) : precedes t u = true ∨ precedes u t = true := by
  rw [precedes_iff, precedes_iff]
  by_cases hn : t.name = u.name
  · have hv : t.version ≠ u.version := fun hv => h (sharesKey_iff.2 ⟨hn.symm, hv.symm⟩)
    by_cases hlt : t.version < u.version
    · exact Or.inl (Or.inr ⟨hn, hlt⟩)
    · exact Or.inr (Or.inr ⟨hn.symm, lt_of_ne_of_not_lt hv hlt⟩)
  · by_cases hlt : t.name < u.name
    · exact Or.inl (Or.inl hlt)
    · exact Or.inr (Or.inl (lt_of_ne_of_not_lt hn hlt))

lemma pairwise_place (hts : ts.Pairwise (precedes · · = true))
    (hnew : ∀ u ∈ ts, ¬sharesKey t u = true) : (place t ts).Pairwise (precedes · · = true) := by
  induction ts with
  | nil => simp [place]
  | cons v vs ih =>
    obtain ⟨hv, hvs⟩ := List.pairwise_cons.1 hts
    obtain ⟨hne, hnew⟩ := List.forall_mem_cons.1 hnew
    rw [place]
    split
    · rename_i htv
      refine List.pairwise_cons.2 ⟨fun x hx => ?_, hts⟩
      rcases List.mem_cons.1 hx with rfl | hx
      · exact htv
      · exact precedes_trans htv (hv x hx)
    · rename_i htv
      refine List.pairwise_cons.2 ⟨fun x hx => ?_, ih hvs hnew⟩
      rcases mem_place.1 hx with rfl | hx
      · exact (precedes_total hne).resolve_left htv
      · exact hv x hx

lemma register_cases (c : Catalog) (t : ArtifactType) :
    (∃ u ∈ c.types, sharesKey t u = true) ∧ c.register t = .error (.duplicate t.name t.version) ∨
      (∀ u ∈ c.types, ¬sharesKey t u = true) ∧ c.register t = .ok ⟨place t c.types⟩ := by
  by_cases h : c.types.any (sharesKey t) = true
  · exact Or.inl ⟨List.any_eq_true.1 h, if_pos h⟩
  · refine Or.inr ⟨fun u hu hkey => h (List.any_eq_true.2 ⟨u, hu, hkey⟩), if_neg h⟩

lemma ofTypes_concat (ts : List ArtifactType) (t : ArtifactType) :
    ofTypes (ts ++ [t]) = ((ofTypes ts).register t).toOption.getD (ofTypes ts) := by
  simp [ofTypes]

lemma find?_place (hnew : ∀ u ∈ ts, ¬sharesKey w u = true) (t : ArtifactType) :
    (place w ts).find? (sharesKey t) = (ts ++ [w]).find? (sharesKey t) := by
  induction ts with
  | nil => rfl
  | cons v vs ih =>
    rw [place]
    split
    · rw [List.find?_append, List.find?_cons]
      cases hw : sharesKey t w with
      | false => simp [hw]
      | true =>
        have hnone : (v :: vs).find? (sharesKey t) = none := by
          rw [← find?_sharesKey hw]
          simpa using hnew
        simp [hnone, hw]
    · rw [List.cons_append, List.find?_cons, List.find?_cons, ih fun u hu => hnew u (.tail _ hu)]

lemma find?_ofTypes (ts : List ArtifactType) (t : ArtifactType) :
    (ofTypes ts).types.find? (sharesKey t) = ts.find? (sharesKey t) := by
  induction ts using List.reverseRecOn with
  | nil => rfl
  | append_singleton ts w ih =>
    rw [ofTypes_concat, List.find?_append, ← ih]
    rcases register_cases (ofTypes ts) w with ⟨⟨u, hu, hkey⟩, hr⟩ | ⟨hnew, hr⟩
    · rw [hr]
      cases hw : sharesKey t w with
      | false => simp [Except.toOption, hw]
      | true =>
        have hsome : ((ofTypes ts).types.find? (sharesKey t)).isSome = true := by
          rw [← find?_sharesKey hw, List.find?_isSome]
          exact ⟨u, hu, hkey⟩
        obtain ⟨x, hx⟩ := Option.isSome_iff_exists.1 hsome
        simp [Except.toOption, hx]
    · rw [hr]
      exact (find?_place hnew t).trans List.find?_append

end

section

variable [Predicates Artifact] {t u : ArtifactType} {ts : List ArtifactType} {c c' : Catalog}

lemma registered_ofTypes (h : ∀ t ∈ ts, t.Declared) : (ofTypes ts).Registered := by
  induction ts using List.reverseRecOn with
  | nil => exact .empty
  | append_singleton ts w ih =>
    have hts := ih fun t ht => h t (List.mem_append_left _ ht)
    rw [ofTypes_concat]
    rcases register_cases (ofTypes ts) w with ⟨_, hr⟩ | ⟨_, hr⟩ <;> rw [hr]
    · exact hts
    · exact .register hts (h w (by simp)) hr

lemma Registered.pairwise (h : c.Registered) : c.types.Pairwise (precedes · · = true) := by
  induction h with
  | empty => exact .nil
  | @register c _ t _ _ hr ih =>
    rcases register_cases c t with ⟨_, he⟩ | ⟨hnew, he⟩
    · cases he.symm.trans hr
    · obtain rfl := Except.ok.inj (he.symm.trans hr)
      exact pairwise_place ih hnew

lemma Registered.nodup (h : c.Registered) : c.types.Nodup := by
  apply h.pairwise.imp
  rintro t _ hp rfl
  exact precedes_irrefl t hp

lemma Registered.ext (h : c.Registered) (h' : c'.Registered)
    (hmem : ∀ t, t ∈ c.types ↔ t ∈ c'.types) : c = c' := by
  have hperm : c.types.Perm c'.types := (List.perm_ext_iff_of_nodup h.nodup h'.nodup).2 hmem
  have htypes : c.types = c'.types :=
    hperm.eq_of_pairwise (fun _ _ _ _ hp hp' => absurd hp' (precedes_asymm hp)) h.pairwise
      h'.pairwise
  exact congrArg mk htypes

lemma Registered.mem_iff (h : c.Registered) :
    t ∈ c.types ↔ c.types.find? (sharesKey t) = some t := by
  constructor
  · intro ht
    have hself : sharesKey t t = true := sharesKey_iff.2 ⟨rfl, rfl⟩
    obtain ⟨u, hu⟩ := Option.isSome_iff_exists.1 (List.find?_isSome.2 ⟨t, ht, hself⟩)
    obtain ⟨hname, hversion⟩ := sharesKey_iff.1 (List.find?_some hu)
    rw [hu, h.unique u (List.mem_of_find?_eq_some hu) t ht hname hversion]
  · exact List.mem_of_find?_eq_some

lemma mem_ofTypes (h : ∀ t ∈ ts, t.Declared) :
    t ∈ (ofTypes ts).types ↔ ts.find? (sharesKey t) = some t := by
  rw [(registered_ofTypes h).mem_iff, find?_ofTypes]

end

namespace Sample

attribute [local instance] Predicates.parityAndSize

def edition (name version endpoint : String) : ArtifactType where
  name := name
  version := version
  displayName := name
  description := none
  endpoint := endpoint
  mutability := .whileState .creating
  attributes := []

lemma declared_edition {name version endpoint : String} (hn : Descriptor.isTypeName name = true)
    (hv : Version.isValid version = true) : (edition name version endpoint).Declared := by
  have hd : Descriptor.declare ⟨name, version, none, none, some endpoint, none, [], none⟩ =
      .ok (edition name version endpoint) := by
    rw [Descriptor.declare, hn, hv]
    rfl
  exact .declare (by simp) (by simp) hd

end Sample

end Catalog

end TypedArtifacts
