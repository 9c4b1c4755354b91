import TypedArtifacts.Definition.Conversion
import TypedArtifacts.Proofs.Definition
import TypedArtifacts.Proofs.Outcome

namespace TypedArtifacts

variable {ρ : Type}

def Scalar.Holds (s : Scalar) (v : Value ρ) : Prop :=
  s.shape.fits v = true ∧ Definition.normalizeScalar s v = v

namespace Shape

lemma eq_list {v : Value ρ} (h : list.fits v = true) : ∃ vs, v = .list vs := by
  cases v with
  | list vs => exact ⟨vs, rfl⟩
  | _ => cases h

lemma eq_dict {v : Value ρ} (h : dict.fits v = true) : ∃ es, v = .dict es := by
  cases v with
  | dict es => exact ⟨es, rfl⟩
  | _ => cases h

lemma eq_artifact {v : Value ρ} (h : artifact.fits v = true) : ∃ a, v = .artifact a := by
  cases v with
  | artifact a => exact ⟨a, rfl⟩
  | _ => cases h

lemma eq_blob {v : Value ρ} (h : blob.fits v = true) : ∃ b, v = .blob b := by
  cases v with
  | blob b => exact ⟨b, rfl⟩
  | _ => cases h

end Shape

namespace Definition

inductive Conforms : Definition ρ → Value ρ → Prop
  | scalar {t : Traits ρ} {s : Scalar} {v : Value ρ} : s.Holds v → Conforms ⟨t, .scalar s⟩ v
  | list {t : Traits ρ} {item : Definition ρ} {vs : List (Value ρ)} :
      (∀ v ∈ vs, Conforms item v) → Conforms ⟨t, .list item⟩ (.list vs)
  | tuple {t : Traits ρ} {items : List (Definition ρ)} {vs : List (Value ρ)} :
      vs.length ≤ items.length → (∀ e ∈ items.zip vs, Conforms e.1 e.2) →
      Conforms ⟨t, .tuple items⟩ (.list vs)
  | dict {t : Traits ρ} {value : Definition ρ} {es : List (String × Value ρ)} :
      Dict.Sorted es → (∀ e ∈ es, Conforms value e.2) → Conforms ⟨t, .dict value⟩ (.dict es)
  | composite {t : Traits ρ} {keys : List (String × Definition ρ)} {es : List (String × Value ρ)} :
      Dict.Sorted es → (∀ e ∈ es, (keys.lookup e.1).isSome = true) →
      (∀ e ∈ es, ∀ d, keys.lookup e.1 = some d → Conforms d e.2) →
      Conforms ⟨t, .composite keys⟩ (.dict es)
  | relation {t : Traits ρ} (a : ρ) : Conforms ⟨t, .relation⟩ (.artifact a)
  | blob {t : Traits ρ} (b : Blob) : Conforms ⟨t, .blob⟩ (.blob b)

lemma normalizeItems_zip {items : List (Definition ρ)} {vs : List (Value ρ)}
    (h : ∀ e ∈ items.zip vs, e.1.normalize e.2 = e.2) : normalizeItems items vs = vs := by
  induction items generalizing vs with
  | nil => rfl
  | cons d ds ih =>
    cases vs with
    | nil => rfl
    | cons v vs =>
      rw [List.zip_cons_cons] at h
      rw [normalizeItems, h (d, v) List.mem_cons_self,
        ih fun e he => h e (List.mem_cons_of_mem _ he)]

lemma normalizeKey_lookup {keys : List (String × Definition ρ)} {key : String} {d : Definition ρ}
    (h : keys.lookup key = some d) (v : Value ρ) : normalizeKey keys key v = d.normalize v := by
  apply Dict.search_of_lookup _ h
  intro _ _ _
  rw [normalizeKey]

lemma mem_zip_normalizeItems {items : List (Definition ρ)} {vs : List (Value ρ)}
    {e : Definition ρ × Value ρ} (h : e ∈ items.zip (normalizeItems items vs)) :
    e.1 ∈ items ∧ ∃ u ∈ vs, e.2 = e.1.normalize u := by
  induction items generalizing vs with
  | nil => simp at h
  | cons d ds ih =>
    cases vs with
    | nil => simp [normalizeItems] at h
    | cons v vs =>
      rw [normalizeItems, List.zip_cons_cons] at h
      rcases List.mem_cons.1 h with rfl | h
      · exact ⟨List.mem_cons_self, v, List.mem_cons_self, rfl⟩
      · obtain ⟨hm, u, hu, hn⟩ := ih h
        exact ⟨List.mem_cons_of_mem _ hm, u, List.mem_cons_of_mem _ hu, hn⟩

lemma Conforms.normalize {d : Definition ρ} {v : Value ρ} (h : d.Conforms v) :
    d.normalize v = v := by
  induction h with
  | scalar h =>
    rw [Definition.normalize, normalizeKind]
    exact h.2
  | list _ ih =>
    rw [Definition.normalize, normalizeKind, List.map_congr_left ih, List.map_id']
  | tuple _ _ ih =>
    rw [Definition.normalize, normalizeKind, normalizeItems_zip ih]
  | dict _ _ ih =>
    rw [Definition.normalize, normalizeKind]
    congr 1
    exact (List.map_congr_left fun e he => by rw [ih e he]).trans (List.map_id' _)
  | composite _ hk _ ih =>
    rw [Definition.normalize, normalizeKind]
    congr 1
    refine (List.map_congr_left fun e he => ?_).trans (List.map_id' _)
    obtain ⟨d, hd⟩ := Option.isSome_iff_exists.1 (hk e he)
    rw [normalizeKey_lookup hd, ih e he d hd]
  | relation a => rw [Definition.normalize, normalizeKind] <;> simp
  | blob b => rw [Definition.normalize, normalizeKind] <;> simp

def Typed (d : Definition ρ) : Prop :=
  ∃ w ∈ d.validators, w.rule = .shape d.kind.shape

/-- No test of a caller stands in for a shape at any depth. -/
structure Regular (d : Definition ρ) : Prop where
  built : d.Built
  shapeKept : ∀ p : Definition ρ, p.Within d → p.ShapeKept

lemma Regular.part {d p : Definition ρ} (h : d.Regular) (hp : p ∈ d.parts) : p.Regular where
  built := h.built.parts p hp
  shapeKept q hq := h.shapeKept q (hq.trans (within_of_mem hp))

lemma Regular.typed {d : Definition ρ} (h : d.Regular) : d.Typed := by
  obtain ⟨w, hw, hslot, hr | ⟨predicate, hr⟩⟩ := h.built.shaped
  · exact ⟨w, hw, hr⟩
  · exact absurd hr (h.shapeKept d .self w hw hslot predicate)

lemma holds_normalizeScalar {s : Scalar} {v : Value ρ}
    (h : s.shape.fits (normalizeScalar s v) = true) : s.Holds (normalizeScalar s v) := by
  refine ⟨h, ?_⟩
  cases s <;> cases v <;> simp [normalizeScalar]

lemma fits_of_normalize {t : Traits ρ} {kind : Kind (Definition ρ)} {v : Value ρ}
    (hk : ∀ s, kind ≠ .scalar s) (h : kind.shape.fits (normalize ⟨t, kind⟩ v) = true) :
    kind.shape.fits v = true := by
  rw [normalize] at h
  cases kind with
  | scalar s => exact absurd rfl (hk s)
  | _ => cases v <;> simp [normalizeKind, Kind.shape, Shape.fits] at h ⊢

lemma eachItem_ok {check : String → Value ρ → Except ValidationError Unit} {place : String} {i : ℕ}
    {vs : List (Value ρ)} (h : eachItem check place i vs = .ok ()) :
    ∀ v ∈ vs, ∃ place, check place v = .ok () := by
  induction vs generalizing i with
  | nil => simp
  | cons v vs ih =>
    rw [eachItem, Outcome.bind_eq_ok] at h
    obtain ⟨_, hc, hr⟩ := h
    intro w hw
    rcases List.mem_cons.1 hw with rfl | hw
    · exact ⟨_, hc⟩
    · exact ih hr w hw

lemma eachEntry_ok {check : String → Value ρ → Except ValidationError Unit} {place : String}
    {es : List (String × Value ρ)} (h : eachEntry check place es = .ok ()) :
    ∀ e ∈ es, check (keyPlace place e.1) e.2 = .ok () := by
  induction es with
  | nil => simp
  | cons e es ih =>
    rw [eachEntry, Outcome.bind_eq_ok] at h
    obtain ⟨_, hc, hr⟩ := h
    intro e' he
    rcases List.mem_cons.1 he with rfl | he
    · exact hc
    · exact ih hr e' he

section

variable [Referent ρ] [Predicates ρ]

lemma not_violated {place : String} {v : Value ρ} {ws : List (Validator ρ)}
    (h : runValidators place v ws = .ok ()) : ∀ w ∈ ws, w.rule.violatedBy v = false := by
  induction ws with
  | nil => simp
  | cons w ws ih =>
    rw [runValidators] at h
    split at h
    · cases h
    · rename_i hw
      intro u hu
      rcases List.mem_cons.1 hu with rfl | hu
      · simpa using hw
      · exact ih h u hu

lemma validateAs_some {d : Definition ρ} {place : String} {v : Value ρ} :
    d.validateAs place (some v) = .ok () ↔
      runValidators place v d.validators = .ok () ∧ validateParts d.kind place v = .ok () := by
  obtain ⟨t, kind⟩ := d
  rw [validateAs, Outcome.bind_eq_ok]
  exact ⟨fun ⟨_, hr, hp⟩ => ⟨hr, hp⟩, fun ⟨hr, hp⟩ => ⟨(), hr, hp⟩⟩

lemma fits_of_valid {d : Definition ρ} (hd : d.Typed) {place : String} {v : Value ρ}
    (h : d.validateAs place (some v) = .ok ()) : d.kind.shape.fits v = true := by
  obtain ⟨w, hw, hr⟩ := hd
  have hv := not_violated (validateAs_some.1 h).1 w hw
  rw [hr] at hv
  simpa [Rule.violatedBy] using hv

lemma validateItems_ok {items : List (Definition ρ)} {place : String} {i : ℕ} {vs : List (Value ρ)}
    (h : validateItems items place i vs = .ok ()) : vs.length ≤ items.length ∧
      ∀ e ∈ items.zip vs, ∃ place, e.1.validateAs place (some e.2) = .ok () := by
  induction items generalizing i vs with
  | nil =>
    cases vs with
    | nil => simp
    | cons v vs => simp [validateItems] at h
  | cons d ds ih =>
    cases vs with
    | nil => simp
    | cons v vs =>
      rw [validateItems, Outcome.bind_eq_ok] at h
      obtain ⟨_, hc, hr⟩ := h
      obtain ⟨hl, hz⟩ := ih hr
      refine ⟨by simpa using hl, fun e he => ?_⟩
      rw [List.zip_cons_cons] at he
      rcases List.mem_cons.1 he with rfl | he
      · exact ⟨_, hc⟩
      · exact hz e he

lemma validateKeys_ok {keys : List (String × Definition ρ)} {place : String}
    {es : List (String × Value ρ)} (h : validateKeys keys place es = .ok ()) :
    ∀ e ∈ keys, e.2.validateAs (keyPlace place e.1) (es.lookup e.1) = .ok () := by
  induction keys with
  | nil => simp
  | cons e keys ih =>
    rw [validateKeys, Outcome.bind_eq_ok] at h
    obtain ⟨_, hc, hr⟩ := h
    intro e' he
    rcases List.mem_cons.1 he with rfl | he
    · exact hc
    · exact ih hr e' he

lemma validateComposite_ok {keys : List (String × Definition ρ)} {place : String}
    {es : List (String × Value ρ)} (h : validateParts (.composite keys) place (.dict es) = .ok ()) :
    (∀ e ∈ es, (keys.lookup e.1).isSome = true) ∧
      ∀ e ∈ keys, e.2.validateAs (keyPlace place e.1) (es.lookup e.1) = .ok () := by
  rw [validateParts] at h
  split at h
  · cases h
  · rename_i hf
    refine ⟨fun e he => ?_, validateKeys_ok h⟩
    simpa [Option.isSome_iff_ne_none] using List.find?_eq_none.1 hf e he

theorem conforms_of_valid (d : Definition ρ) (hd : d.Regular) {v : Value ρ} (hv : v.Ordered)
    {place : String} (h : d.validateAs place (some (d.normalize v)) = .ok ()) :
    d.Conforms (d.normalize v) := by
  induction d using Definition.induction generalizing v place with
  | h d ih =>
    have hfit := fits_of_valid hd.typed h
    have hparts := (validateAs_some.1 h).2
    obtain ⟨t, kind⟩ := d
    cases kind with
    | scalar s =>
      rw [normalize, normalizeKind] at hfit ⊢
      exact .scalar (holds_normalizeScalar hfit)
    | list item =>
      obtain ⟨vs, rfl⟩ := Shape.eq_list (fits_of_normalize (by simp) hfit)
      rw [normalize, normalizeKind] at hparts ⊢
      apply Conforms.list
      intro w hw
      obtain ⟨place, hp⟩ := eachItem_ok (by rwa [validateParts] at hparts) w hw
      obtain ⟨u, hu, rfl⟩ := List.mem_map.1 hw
      have hm : item ∈ (mk t (.list item)).parts := List.mem_singleton_self _
      exact ih item hm (hd.part hm) (hv.child (show u ∈ (Value.list vs).children from hu)) hp
    | tuple items =>
      obtain ⟨vs, rfl⟩ := Shape.eq_list (fits_of_normalize (by simp) hfit)
      rw [normalize, normalizeKind] at hparts ⊢
      obtain ⟨hl, hz⟩ := validateItems_ok (by rwa [validateParts] at hparts)
      apply Conforms.tuple hl
      intro e he
      obtain ⟨place, hp⟩ := hz e he
      obtain ⟨hm, u, hu, hn⟩ := mem_zip_normalizeItems he
      rw [hn] at hp ⊢
      exact ih e.1 hm (hd.part hm) (hv.child (show u ∈ (Value.list vs).children from hu)) hp
    | dict value =>
      obtain ⟨es, rfl⟩ := Shape.eq_dict (fits_of_normalize (by simp) hfit)
      rw [normalize, normalizeKind] at hparts ⊢
      apply Conforms.dict ((hv es .self).map fun _ v => value.normalize v)
      intro e he
      have hp := eachEntry_ok (by rwa [validateParts] at hparts) e he
      obtain ⟨e, hmem, rfl⟩ := List.mem_map.1 he
      have hm : value ∈ (mk t (.dict value)).parts := List.mem_singleton_self _
      exact ih value hm (hd.part hm) (hv.child (Value.mem_children_dict hmem)) hp
    | composite keys =>
      obtain ⟨es, rfl⟩ := Shape.eq_dict (fits_of_normalize (by simp) hfit)
      rw [normalize, normalizeKind] at hparts ⊢
      have hsorted := (hv es .self).map fun k v => normalizeKey keys k v
      obtain ⟨hdecl, hkeys⟩ := validateComposite_ok hparts
      apply Conforms.composite hsorted hdecl
      intro e he d hl
      have hp := hkeys (e.1, d) (Dict.mem_of_lookup hl)
      rw [Dict.lookup_of_mem hsorted.nodup he] at hp
      obtain ⟨e, hmem, rfl⟩ := List.mem_map.1 he
      have hm : d ∈ (mk t (.composite keys)).parts := List.mem_map_of_mem (Dict.mem_of_lookup hl)
      rw [normalizeKey_lookup hl] at hp ⊢
      exact ih d hm (hd.part hm) (hv.child (Value.mem_children_dict hmem)) hp
    | relation =>
      obtain ⟨a, rfl⟩ := Shape.eq_artifact (fits_of_normalize (by simp) hfit)
      simpa [normalize, normalizeKind] using Conforms.relation a
    | blob =>
      obtain ⟨b, rfl⟩ := Shape.eq_blob (fits_of_normalize (by simp) hfit)
      simpa [normalize, normalizeKind] using Conforms.blob b

end

end Definition

end TypedArtifacts
