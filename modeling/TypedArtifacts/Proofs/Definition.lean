import TypedArtifacts.Definition.Declaration
import TypedArtifacts.Proofs.Value

namespace TypedArtifacts

namespace Validator

variable {ρ : Type}

lemma mem_install_self (v : Validator ρ) (vs : List (Validator ρ)) : v ∈ v.install vs := by
  induction vs with
  | nil => simp [install]
  | cons w ws ih =>
    rw [install]
    split
    · simp
    · exact List.mem_cons_of_mem _ ih

lemma mem_install {v w : Validator ρ} {vs : List (Validator ρ)} (h : w ∈ v.install vs) :
    w = v ∨ w ∈ vs := by
  induction vs with
  | nil => exact Or.inl (List.mem_singleton.1 h)
  | cons u us ih =>
    rw [install] at h
    split at h
    · exact (List.mem_cons.1 h).imp_right (List.mem_cons_of_mem _)
    · rcases List.mem_cons.1 h with rfl | h
      · exact Or.inr List.mem_cons_self
      · exact (ih h).imp_right (List.mem_cons_of_mem _)

lemma mem_install_of_mem {v w : Validator ρ} {vs : List (Validator ρ)} (h : w ∈ vs)
    (hs : w.slot ≠ v.slot) : w ∈ v.install vs := by
  induction vs with
  | nil => simp at h
  | cons u us ih =>
    rw [install]
    rcases List.mem_cons.1 h with rfl | h
    · rw [if_neg hs]
      simp
    · split
      · exact List.mem_cons_of_mem _ h
      · exact List.mem_cons_of_mem _ (ih h)

def installAll (vs us : List (Validator ρ)) : List (Validator ρ) :=
  us.foldl (fun vs u => u.install vs) vs

end Validator

namespace Definition

variable {ρ : Type}

def parts (d : Definition ρ) : List (Definition ρ) :=
  match d.kind with
  | .list item => [item]
  | .tuple items => items
  | .dict value => [value]
  | .composite keys => Dict.values keys
  | _ => []

inductive Within (p : Definition ρ) : Definition ρ → Prop
  | self : Within p p
  | part {q d : Definition ρ} : q ∈ d.parts → Within p q → Within p d

lemma mem_parts_of_itemAt? {d p : Definition ρ} {i : ℕ} (h : d.itemAt? i = some p) :
    p ∈ d.parts := by
  obtain ⟨t, kind⟩ := d
  cases kind with
  | list item =>
    obtain rfl := Option.some.inj h
    exact List.mem_singleton_self _
  | tuple items => exact List.mem_of_getElem? h
  | _ => cases h

lemma mem_parts_of_valueAt? {d p : Definition ρ} {key : String} (h : d.valueAt? key = some p) :
    p ∈ d.parts := by
  obtain ⟨t, kind⟩ := d
  cases kind with
  | dict value =>
    obtain rfl := Option.some.inj h
    exact List.mem_singleton_self _
  | composite keys =>
    exact List.mem_map_of_mem (Dict.mem_of_lookup h)
  | _ => cases h

lemma within_of_mem {p d : Definition ρ} (h : p ∈ d.parts) : p.Within d :=
  .part h .self

lemma Within.trans {p q d : Definition ρ} (h : p.Within q) (h' : q.Within d) : p.Within d := by
  induction h' with
  | self => exact h
  | part hm _ ih => exact .part hm ih

lemma forall_within {P : Definition ρ → Prop} {d : Definition ρ} (hd : P d)
    (h : ∀ q ∈ d.parts, ∀ p : Definition ρ, p.Within q → P p) :
    ∀ p : Definition ρ, p.Within d → P p := by
  intro p hp
  cases hp with
  | self => exact hd
  | part hm hp => exact h _ hm _ hp

lemma sizeOf_part {p d : Definition ρ} (h : p ∈ d.parts) : sizeOf p < sizeOf d := by
  obtain ⟨t, kind⟩ := d
  cases kind with
  | list item =>
    obtain rfl := List.mem_singleton.1 (show p ∈ [item] from h)
    simp only [mk.sizeOf_spec, Kind.list.sizeOf_spec]
    omega
  | tuple items =>
    have hs := List.sizeOf_lt_of_mem (show p ∈ items from h)
    simp only [mk.sizeOf_spec, Kind.tuple.sizeOf_spec]
    omega
  | dict value =>
    obtain rfl := List.mem_singleton.1 (show p ∈ [value] from h)
    simp only [mk.sizeOf_spec, Kind.dict.sizeOf_spec]
    omega
  | composite keys =>
    obtain ⟨⟨k, q⟩, he, rfl⟩ := List.mem_map.1 (show p ∈ Dict.values keys from h)
    have hs := List.sizeOf_lt_of_mem he
    simp only [mk.sizeOf_spec, Kind.composite.sizeOf_spec, Prod.mk.sizeOf_spec] at hs ⊢
    omega
  | _ => simp [parts] at h

theorem induction {P : Definition ρ → Prop} (h : ∀ d, (∀ p ∈ d.parts, P p) → P d)
    (d : Definition ρ) : P d :=
  h d fun p _ => induction h p
  termination_by sizeOf d
  decreasing_by exact sizeOf_part ‹_›

end Definition

def Facet.Ordered {ρ : Type} : Facet ρ → Prop
  | .default v => v.Ordered
  | .allowedValues vs => ∀ v ∈ vs, v.Ordered
  | _ => True

def Facet.validator? {ρ : Type} (kind : Kind (Definition ρ)) : Facet ρ → Option (Validator ρ)
  | .pattern source =>
    (Pattern.compile? source).bind fun p =>
      if kind.isText then some (.ofRule "pattern" (.limit (.pattern p))) else none
  | .limit l => if kind.admits l then some (.ofRule l.slot (.limit l)) else none
  | .allowedValues values =>
    some (.ofRule "allowed_values" (.allowedValues (values.map (Definition.normalizeKind kind))))
  | .validator slot message predicate => some ⟨slot, .custom predicate, message⟩
  | _ => none

namespace Definition

variable {ρ : Type}

inductive Built : Definition ρ → Prop
  | scalar (s : Scalar) : Built (.scalar s)
  | relation : Built .relation
  | blob : Built .blob
  | list {item : Definition ρ} : Built item → Built (.list item)
  | tuple {items : List (Definition ρ)} : (∀ d ∈ items, Built d) → Built (.tuple items)
  | dict {value : Definition ρ} : Built value → Built (.dict value)
  | composite {keys : List (String × Definition ρ)} : (∀ e ∈ keys, Built e.2) →
      Built (.composite keys)
  | facet {d : Definition ρ} (f : Facet ρ) : f.Ordered → Built d → Built (d.apply f)
  | named {d e : Definition ρ} {name : String} : Built d → d.assignName name = .ok e → Built e

def Shaped (d : Definition ρ) : Prop :=
  ∃ w ∈ d.validators, w.slot = "type" ∧
    (w.rule = .shape d.kind.shape ∨ ∃ predicate, w.rule = .custom predicate)

def ShapeKept (d : Definition ρ) : Prop :=
  ∀ w ∈ d.validators, w.slot = "type" → ∀ predicate, w.rule ≠ .custom predicate

lemma parts_eq {d e : Definition ρ} (h : d.kind = e.kind) : d.parts = e.parts := by
  simp only [parts, h]

lemma role_eq {d e : Definition ρ} (h : d.kind = e.kind) : d.role = e.role := by
  obtain ⟨t, kind⟩ := d
  obtain ⟨t', kind'⟩ := e
  obtain rfl : kind = kind' := h
  cases kind with
  | list item =>
    obtain ⟨_, kind⟩ := item
    cases kind <;> rfl
  | _ => rfl

lemma normalize_kind (d : Definition ρ) : d.normalize = normalizeKind d.kind := by
  funext v
  obtain ⟨t, kind⟩ := d
  rw [normalize]

lemma slot_ne_type (l : Limit) : l.slot ≠ "type" := by
  cases l <;> simp [Limit.slot]

lemma shaped_ofKind (kind : Kind (Definition ρ)) : (ofKind kind).Shaped :=
  ⟨_, List.mem_singleton_self _, rfl, Or.inl rfl⟩

lemma Shaped.install {d : Definition ρ} (h : d.Shaped) {v : Validator ρ} (hv : v.slot ≠ "type") :
    (d.install v).Shaped := by
  obtain ⟨w, hw, hs, hr⟩ := h
  exact ⟨w, Validator.mem_install_of_mem hw (hs ▸ hv.symm), hs, hr⟩

lemma shapeKept_ofKind (kind : Kind (Definition ρ)) : (ofKind kind).ShapeKept := by
  intro w hw _ predicate
  obtain rfl := List.mem_singleton.1 hw
  exact nofun

lemma ShapeKept.install {d : Definition ρ} (h : d.ShapeKept) {v : Validator ρ}
    (hv : v.slot ≠ "type") : (d.install v).ShapeKept := by
  intro w hw hs
  rcases Validator.mem_install hw with rfl | hw
  · exact absurd hs hv
  · exact h w hw hs

inductive OfFacet : Validator ρ → Prop
  | limit (l : Limit) : OfFacet (.ofRule l.slot (.limit l))
  | allowedValues (values : List (Value ρ)) :
      OfFacet (.ofRule "allowed_values" (.allowedValues values))
  | custom (slot message predicate : String) : OfFacet ⟨slot, .custom predicate, message⟩

lemma validators_restrict (l : Limit) (d : Definition ρ) :
    (d.restrict l).validators = Validator.installAll d.validators
      (if d.kind.admits l then some (.ofRule l.slot (.limit l)) else none).toList := by
  unfold restrict
  split <;> rfl

lemma validators_apply (f : Facet ρ) (d : Definition ρ) :
    (d.apply f).validators = Validator.installAll d.validators (f.validator? d.kind).toList := by
  cases f with
  | mutable =>
    simp only [apply]
    split <;> rfl
  | pattern source =>
    simp only [apply, Facet.validator?]
    cases Pattern.compile? source with
    | none => rfl
    | some p => exact validators_restrict (.pattern p) d
  | limit l => exact validators_restrict l d
  | allowedValues values =>
    simp only [apply, normalize_kind]
    rfl
  | _ => rfl

lemma ofFacet_validator? {f : Facet ρ} {kind : Kind (Definition ρ)} {v : Validator ρ}
    (h : f.validator? kind = some v) : OfFacet v := by
  cases f with
  | pattern source =>
    obtain ⟨p, _, hp⟩ := Option.bind_eq_some_iff.1 h
    obtain ⟨_, ⟨⟩⟩ := Option.ite_none_right_eq_some.1 hp
    exact .limit (.pattern p)
  | limit l =>
    obtain ⟨_, ⟨⟩⟩ := Option.ite_none_right_eq_some.1 h
    exact .limit l
  | allowedValues values =>
    obtain rfl := Option.some.inj h
    exact .allowedValues _
  | validator slot message predicate =>
    obtain rfl := Option.some.inj h
    exact .custom slot message predicate
  | _ => cases h

lemma validators_apply_cases (f : Facet ρ) (d : Definition ρ) :
    (d.apply f).validators = d.validators ∨ ∃ v, OfFacet v ∧
      (d.apply f).validators = v.install d.validators := by
  rw [validators_apply]
  cases hv : f.validator? d.kind with
  | none => exact Or.inl rfl
  | some v => exact Or.inr ⟨v, ofFacet_validator? hv, rfl⟩

lemma Shaped.install_facet {d : Definition ρ} (h : d.Shaped) {v : Validator ρ} (hv : OfFacet v) :
    (d.install v).Shaped := by
  cases hv with
  | limit l => exact h.install (slot_ne_type l)
  | allowedValues values => exact h.install (by simp [Validator.ofRule])
  | custom slot message predicate =>
    by_cases hs : slot = "type"
    · exact ⟨_, Validator.mem_install_self _ _, hs, Or.inr ⟨predicate, rfl⟩⟩
    · exact h.install hs

lemma Shaped.apply {d : Definition ρ} (h : d.Shaped) (f : Facet ρ) : (d.apply f).Shaped := by
  rcases validators_apply_cases f d with he | ⟨v, hv, he⟩
  · rwa [Shaped, he, kind_apply]
  · rw [Shaped, he, kind_apply]
    exact h.install_facet hv

lemma assignName_eq {d e : Definition ρ} {name : String} (h : d.assignName name = .ok e) :
    e = { d with name := some name } := by
  unfold assignName at h
  split at h
  · cases h
  · exact (Except.ok.inj h).symm

lemma Built.validators_induction {P : Kind (Definition ρ) → List (Validator ρ) → Prop}
    (hkind : ∀ kind, P kind (ofKind kind).validators)
    (harity : ∀ items vs, P (.tuple items) vs → P (.tuple items) (Validator.install
      ⟨"arity", .limit (.maxSize items.length), arityMessage items.length⟩ vs))
    (hfacet : ∀ kind v vs, OfFacet v → P kind vs → P kind (v.install vs)) {d : Definition ρ}
    (h : d.Built) : P d.kind d.validators := by
  induction h with
  | tuple _ _ => exact harity _ _ (hkind _)
  | @facet d f _ _ ih =>
    rw [kind_apply]
    rcases validators_apply_cases f d with he | ⟨v, hv, he⟩ <;> rw [he]
    · exact ih
    · exact hfacet _ v _ hv ih
  | named _ hn ih =>
    rw [assignName_eq hn]
    exact ih
  | _ => exact hkind _

lemma built_applyAll {d : Definition ρ} {facets : List (Facet ρ)} (hd : d.Built)
    (hf : ∀ f ∈ facets, f.Ordered) : (d.applyAll facets).Built := by
  induction facets generalizing d with
  | nil => exact hd
  | cons f facets ih =>
    rw [List.forall_mem_cons] at hf
    exact ih (.facet f hf.1 hd) hf.2

lemma Built.shaped {d : Definition ρ} (h : d.Built) : d.Shaped := by
  induction h with
  | scalar s => exact shaped_ofKind _
  | relation => exact shaped_ofKind .relation
  | blob => exact shaped_ofKind _
  | list _ _ => exact shaped_ofKind (.list _)
  | tuple _ _ => exact (shaped_ofKind _).install (by simp)
  | dict _ _ => exact shaped_ofKind _
  | composite _ _ => exact shaped_ofKind _
  | facet f _ _ ih => exact ih.apply f
  | named _ hn ih =>
    rw [assignName_eq hn]
    exact ih

lemma Built.parts {d : Definition ρ} (h : d.Built) : ∀ p ∈ d.parts, p.Built := by
  induction h with
  | scalar s => simp [Definition.parts, Definition.scalar, ofKind]
  | relation => simp [Definition.parts, Definition.relation, ofKind]
  | blob => simp [Definition.parts, Definition.blob, ofKind]
  | list hi _ => simpa [Definition.parts, Definition.list, ofKind] using hi
  | tuple hi _ => simpa [Definition.parts, Definition.tuple, Definition.install, ofKind] using hi
  | dict hv _ => simpa [Definition.parts, Definition.dict, ofKind] using hv
  | composite hk _ =>
    intro p hp
    obtain ⟨e, he, rfl⟩ := List.mem_map.1 hp
    exact hk e (Dict.mem_ofList he)
  | facet f _ _ ih => rwa [parts_eq (kind_apply f _)]
  | named _ hn ih =>
    rw [assignName_eq hn]
    exact ih

lemma Built.sorted {d : Definition ρ} (h : d.Built) :
    ∀ keys, d.kind = .composite keys → Dict.Sorted keys := by
  induction h with
  | composite _ _ =>
    intro keys hk
    obtain rfl := Kind.composite.inj hk
    exact Dict.sorted_ofList _
  | facet f _ _ ih => rwa [kind_apply f]
  | named _ hn ih =>
    rw [assignName_eq hn]
    exact ih
  | _ => exact fun keys hk => nomatch hk

lemma normalize_eq {d e : Definition ρ} (h : d.kind = e.kind) (v : Value ρ) :
    d.normalize v = e.normalize v := by
  rw [normalize_kind, normalize_kind, h]

lemma default_apply {d : Definition ρ} {f : Facet ρ} {v : Value ρ}
    (h : (d.apply f).default = some v) :
    d.default = some v ∨ ∃ w, f = .default w ∧ v = d.normalize w := by
  cases f with
  | default w => exact Or.inr ⟨w, rfl, (Option.some.inj h).symm⟩
  | mutable =>
    simp only [Definition.apply] at h
    split at h <;> exact Or.inl h
  | pattern source =>
    simp only [Definition.apply, restrict] at h
    split at h
    · split at h <;> exact Or.inl h
    · exact Or.inl h
  | limit l =>
    simp only [Definition.apply, restrict] at h
    split at h <;> exact Or.inl h
  | _ => exact Or.inl h

lemma Built.default_normal {d : Definition ρ} (h : d.Built) :
    ∀ v, d.default = some v → ∃ w : Value ρ, w.Ordered ∧ v = d.normalize w := by
  induction h with
  | facet f hf _ ih =>
    intro v hv
    rcases default_apply hv with hd | ⟨w, rfl, rfl⟩
    · obtain ⟨w, hw, rfl⟩ := ih v hd
      exact ⟨w, hw, normalize_eq (kind_apply f _).symm w⟩
    · exact ⟨w, hf, normalize_eq (kind_apply _ _).symm w⟩
  | @named d _ _ _ hn ih =>
    rw [assignName_eq hn]
    intro v hv
    obtain ⟨w, hw, rfl⟩ := ih v hv
    have hk : ∀ t : Traits ρ, (mk t d.kind).normalize w = d.normalize w :=
      fun t => normalize_eq (by rfl) w
    exact ⟨w, hw, (hk _).symm⟩
  | _ => exact fun v hv => nomatch hv

end Definition

end TypedArtifacts
