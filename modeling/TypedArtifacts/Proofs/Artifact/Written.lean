import TypedArtifacts.Artifact.Guard
import TypedArtifacts.Proofs.ArtifactType
import TypedArtifacts.Proofs.Definition.Conforming

namespace TypedArtifacts

def ListEdit.Ordered : ListEdit → Prop
  | .append v => v.Ordered
  | .extend vs => ∀ v ∈ vs, v.Ordered
  | .insert _ v => v.Ordered
  | .setItem _ v => v.Ordered
  | _ => True

def DictEdit.Ordered : DictEdit → Prop
  | .insert _ v => v.Ordered
  | .update entries => ∀ e ∈ entries, e.2.Ordered
  | _ => True

section

variable [Predicates Artifact]

inductive Guard.Edited (g : Guard) : Guard → Prop
  | none : Edited g g
  | list {g' h : Guard} {edit : ListEdit} {taken : Option (Value Artifact)} : Edited g g' →
      edit.Ordered → g'.editList edit = .ok (h, taken) → Edited g h
  | dict {g' h : Guard} {edit : DictEdit} {previous : Option (Value Artifact)} : Edited g g' →
      edit.Ordered → g'.editDict edit = .ok (h, previous) → Edited g h

/-- The artifacts of a type that can be made by its writers. Common fields may be any. -/
inductive Artifact.Written [ArtifactPredicates] (t : ArtifactType) : Artifact → Prop
  | blank (id : String) (now : Instant) : Written t (.blank t id now)
  | create {id name version : String} {now : Instant} {a : Artifact} :
      Artifact.create t id name version now = .ok a → Written t a
  | header {a : Artifact} (h : Header) : Written t a → Written t { a with toHeader := h }
  | get {a b : Artifact} {name : String} {v : Option (Value Artifact)} : Written t a →
      a.get name = .ok (b, v) → Written t b
  | set {a b : Artifact} {name : String} {v : Option (Value Artifact)} : Written t a →
      (∀ w, v = some w → w.Ordered) → a.set name v = .ok b → Written t b
  | list {a : Artifact} {name : String} {g g' : Guard} : Written t a →
      a.openList name = .ok g → g.Edited g' → Written t (a.close g')
  | dict {a : Artifact} {name : String} {g g' : Guard} : Written t a →
      a.openDict name = .ok g → g.Edited g' → Written t (a.close g')

end

namespace Definition

variable {ρ : Type}

lemma mem_normalizeItems {items : List (Definition ρ)} {vs : List (Value ρ)} {v : Value ρ}
    (h : v ∈ normalizeItems items vs) : v ∈ vs ∨ ∃ d ∈ items, ∃ u ∈ vs, v = d.normalize u := by
  induction items generalizing vs with
  | nil => exact Or.inl h
  | cons d ds ih =>
    cases vs with
    | nil => simp [normalizeItems] at h
    | cons u us =>
      rw [normalizeItems] at h
      rcases List.mem_cons.1 h with rfl | h
      · exact Or.inr ⟨d, List.mem_cons_self, u, List.mem_cons_self, rfl⟩
      · rcases ih h with hm | ⟨p, hp, w, hw, rfl⟩
        · exact Or.inl (List.mem_cons_of_mem _ hm)
        · exact Or.inr ⟨p, List.mem_cons_of_mem _ hp, w, List.mem_cons_of_mem _ hw, rfl⟩

lemma normalizeKey_cases (keys : List (String × Definition ρ)) (key : String) (v : Value ρ) :
    normalizeKey keys key v = v ∨ ∃ e ∈ keys, normalizeKey keys key v = e.2.normalize v := by
  induction keys with
  | nil => exact Or.inl rfl
  | cons e keys ih =>
    rw [normalizeKey]
    split
    · exact Or.inr ⟨e, List.mem_cons_self, rfl⟩
    · rcases ih with h | ⟨p, hp, h⟩
      · exact Or.inl h
      · exact Or.inr ⟨p, List.mem_cons_of_mem _ hp, h⟩

lemma ordered_dict {es : List (String × Value ρ)} (hs : Dict.Sorted es)
    (h : ∀ e ∈ es, e.2.Ordered) : (Value.dict es).Ordered := by
  refine Value.ordered_of_children (fun fs hf => ?_) fun u hu => ?_
  · obtain rfl := Value.dict.inj hf
    exact hs
  · obtain ⟨e, he, rfl⟩ := List.mem_map.1 hu
    exact h e he

lemma ordered_atom {v : Value ρ} (h : v.children = []) (hd : ∀ es, v ≠ .dict es) : v.Ordered :=
  Value.ordered_of_children (fun es he => absurd he (hd es)) (by simp [h])

lemma ordered_list {vs : List (Value ρ)} (h : ∀ v ∈ vs, v.Ordered) : (Value.list vs).Ordered :=
  Value.ordered_of_children (fun _ hf => nomatch hf) h

lemma ordered_normalizeScalar (s : Scalar) {v : Value ρ} (h : v.Ordered) :
    (normalizeScalar s v).Ordered := by
  cases s <;> cases v <;> first
    | exact h
    | exact ordered_atom rfl (by simp [normalizeScalar])

lemma ordered_normalize (d : Definition ρ) {v : Value ρ} (h : v.Ordered) :
    (d.normalize v).Ordered := by
  induction d using Definition.induction generalizing v with
  | h d ih =>
    obtain ⟨t, kind⟩ := d
    rw [Definition.normalize]
    cases kind with
    | scalar s => exact ordered_normalizeScalar s h
    | list item =>
      cases v with
      | list vs =>
        apply ordered_list
        intro w hw
        obtain ⟨u, hu, rfl⟩ := List.mem_map.1 hw
        exact ih item (List.mem_singleton_self _) (h.child (show u ∈ (Value.list vs).children from hu))
      | _ => exact h
    | tuple items =>
      cases v with
      | list vs =>
        apply ordered_list
        intro w hw
        rcases mem_normalizeItems hw with hm | ⟨d, hd, u, hu, rfl⟩
        · exact h.child (show w ∈ (Value.list vs).children from hm)
        · exact ih d hd (h.child (show u ∈ (Value.list vs).children from hu))
      | _ => exact h
    | dict value =>
      cases v with
      | dict es =>
        apply ordered_dict ((h es .self).map fun _ v => value.normalize v)
        intro e he
        obtain ⟨x, hx, rfl⟩ := List.mem_map.1 he
        exact ih value (List.mem_singleton_self _) (h.child (Value.mem_children_dict hx))
      | _ => exact h
    | composite keys =>
      cases v with
      | dict es =>
        apply ordered_dict ((h es .self).map fun k v => normalizeKey keys k v)
        intro e he
        obtain ⟨x, hx, rfl⟩ := List.mem_map.1 he
        have hc := h.child (Value.mem_children_dict hx)
        rcases normalizeKey_cases keys x.1 x.2 with hk | ⟨p, hp, hk⟩
        · simpa only [hk] using hc
        · rw [hk]
          exact ih p.2 (List.mem_map_of_mem hp) hc
      | _ => exact h
    | relation => exact h
    | blob => exact h

end Definition

section

variable [Predicates Artifact]

def Field.Legal (name : String) (f : Field Artifact) : Prop :=
  ∀ v, f.value? = some v → f.definition.validateAs name (some v) = .ok () ∧
    ∃ w : Value Artifact, w.Ordered ∧ v = f.definition.normalize w

lemma Field.Legal.ordered {name : String} {f : Field Artifact} (h : f.Legal name) {v : Value Artifact}
    (hv : f.value? = some v) : v.Ordered := by
  obtain ⟨_, w, hw, rfl⟩ := h v hv
  exact Definition.ordered_normalize _ hw

lemma Field.legal_blank {name : String} {d : Definition Artifact} (h : d.Admitted name) :
    (Field.blank d).Legal name :=
  fun v hv => ⟨h.default_valid v hv, h.built.default_normal v hv⟩

lemma Field.Legal.materialize {name : String} {f : Field Artifact} (h : f.Legal name) :
    f.materialize.Legal name := by
  intro v hv
  rw [value?_materialize] at hv
  exact h v hv

lemma Field.store_ok {name : String} {f f' : Field Artifact} {v : Option (Value Artifact)}
    (h : f.store name v = .ok f') :
    f.definition.validateAs name (v.map f.definition.normalize) = .ok () ∧
      f' = f.commit (v.map f.definition.normalize) := by
  unfold Field.store at h
  obtain ⟨_, hv, hf⟩ := Outcome.bind_eq_ok.1 h
  exact ⟨hv, (Except.ok.inj hf).symm⟩

lemma Field.legal_store {name : String} {f f' : Field Artifact} {v : Option (Value Artifact)}
    (hd : f.definition.Admitted name) (hv : ∀ w, v = some w → w.Ordered)
    (h : f.store name v = .ok f') : f'.Legal name ∧ f'.definition = f.definition := by
  obtain ⟨hvalid, rfl⟩ := Field.store_ok h
  refine ⟨?_, rfl⟩
  cases v with
  | none => exact Field.legal_blank hd
  | some w =>
    intro u hu
    obtain rfl : f.definition.normalize w = u := Option.some.inj hu
    exact ⟨hvalid, w, hv w rfl, rfl⟩

end

namespace Artifact

section

variable {a : Artifact}

lemma findField_ok {name : String} {f : Field Artifact} (h : a.findField name = .ok f) :
    a.fields.lookup name = some f := by
  unfold findField field? at h
  cases hl : a.fields.lookup name with
  | none => simp [hl] at h
  | some g =>
    rw [hl] at h
    rw [Except.ok.inj h]

lemma findField_of_lookup {name : String} {f : Field Artifact} (h : a.fields.lookup name = some f) :
    a.findField name = .ok f := by
  simp [findField, field?, h]

lemma mem_fieldsOf {role : Role} {e : String × Field Artifact} :
    e ∈ a.fieldsOf role ↔ e ∈ a.fields ∧ e.2.definition.role = role := by
  simp [fieldsOf]

lemma mem_withField {name : String} {f : Field Artifact} {e : String × Field Artifact}
    (h : e ∈ (a.withField name f).fields) : e = (name, f) ∨ e ∈ a.fields := by
  obtain ⟨x, hx, rfl⟩ := List.mem_map.1 h
  by_cases hn : x.1 = name
  · exact Or.inl (by simp [hn])
  · exact Or.inr (by simpa [hn] using hx)

lemma definitions_withField {name : String} {f g : Field Artifact} (hs : Dict.Sorted a.fields)
    (hf : a.fields.lookup name = some f) (hg : g.definition = f.definition) :
    ((a.withField name g).fields.map fun e => (e.1, e.2.definition)) =
      a.fields.map fun e => (e.1, e.2.definition) := by
  rw [withField, Dict.adjust, List.map_map]
  apply List.map_congr_left
  intro e he
  by_cases hn : e.1 = name
  · have hl : a.fields.lookup e.1 = some e.2 := Dict.lookup_of_mem hs.nodup he
    obtain rfl : e.2 = f := Option.some.inj (hl.symm.trans (hn ▸ hf))
    simp [hn, hg]
  · simp [hn]

lemma get_ok {b : Artifact} {name : String} {v : Option (Value Artifact)}
    (h : a.get name = .ok (b, v)) :
    ∃ f, a.fields.lookup name = some f ∧ b = a.withField name f.materialize := by
  unfold Artifact.get at h
  obtain ⟨f, hf, hb⟩ := Outcome.bind_eq_ok.1 h
  obtain ⟨rfl, _⟩ := Prod.mk.inj (Except.ok.inj hb)
  exact ⟨f, findField_ok hf, rfl⟩

lemma set_ok [ArtifactPredicates] [Predicates Artifact] {b : Artifact} {name : String} {v : Option (Value Artifact)}
    (h : a.set name v = .ok b) : ∃ f g, a.fields.lookup name = some f ∧
      f.isReadOnly a.isMutable = false ∧ f.store name v = .ok g ∧ b = a.withField name g := by
  unfold Artifact.set at h
  obtain ⟨f, hf, h⟩ := Outcome.bind_eq_ok.1 h
  obtain ⟨g, hg, hb⟩ := Outcome.bind_eq_ok.1 h
  obtain rfl := Except.ok.inj hb
  unfold Field.set at hg
  obtain ⟨_, hw, hstore⟩ := Outcome.bind_eq_ok.1 hg
  exact ⟨f, g, findField_ok hf, (Field.checkWritable_eq_ok_iff name f _).1 hw, hstore, rfl⟩

end

section

variable [Predicates Artifact]

structure Coherent (t : ArtifactType) (a : Artifact) : Prop where
  type_eq : a.type = t.toTypeHeader
  definitions : (a.fields.map fun e => (e.1, e.2.definition)) = t.attributes
  legal : ∀ e ∈ a.fields, e.2.Legal e.1

variable {t : ArtifactType} {a : Artifact}

lemma Coherent.admitted (h : a.Coherent t) (ht : t.Declared) {e : String × Field Artifact}
    (he : e ∈ a.fields) : e.2.definition.Admitted e.1 := by
  have hm : (e.1, e.2.definition) ∈ t.attributes := h.definitions ▸ List.mem_map_of_mem he
  exact ht.attributes.2 _ hm

lemma Coherent.sorted (h : a.Coherent t) (ht : t.Declared) : Dict.Sorted a.fields := by
  have hs : Dict.Sorted (a.fields.map fun e => (e.1, e.2.definition)) :=
    h.definitions ▸ ht.attributes.1
  exact Dict.sorted_of_map (fun _ f => f.definition) hs

lemma Coherent.withField (h : a.Coherent t) (ht : t.Declared) {name : String} {f g : Field Artifact}
    (hf : a.fields.lookup name = some f) (hd : g.definition = f.definition) (hg : g.Legal name) :
    (a.withField name g).Coherent t where
  type_eq := h.type_eq
  definitions := (definitions_withField (h.sorted ht) hf hd).trans h.definitions
  legal := by
    intro e he
    rcases mem_withField he with rfl | he
    · exact hg
    · exact h.legal e he

lemma coherent_blank (ht : t.Declared) (id : String) (now : Instant) :
    (blank t id now).Coherent t where
  type_eq := rfl
  definitions := by
    simp [blank, Dict.mapValues, Field.blank, Function.comp_def]
  legal := by
    intro e he
    obtain ⟨x, hx, rfl⟩ := List.mem_map.1 he
    exact Field.legal_blank (ht.attributes.2 x hx)

lemma Coherent.seedDefaults (h : a.Coherent t) : a.seedDefaults.Coherent t where
  type_eq := h.type_eq
  definitions := by
    rw [← h.definitions]
    simp [Artifact.seedDefaults, Dict.mapValues, Field.materialize, Function.comp_def]
  legal := by
    intro e he
    obtain ⟨x, hx, rfl⟩ := List.mem_map.1 he
    exact (h.legal x hx).materialize

lemma Coherent.header (h : a.Coherent t) (header : Header) :
    Coherent t { a with toHeader := header } where
  type_eq := h.type_eq
  definitions := h.definitions
  legal := h.legal

lemma coherent_create (ht : t.Declared) {id name version : String} {now : Instant}
    (h : create t id name version now = .ok a) : a.Coherent t := by
  unfold create at h
  split at h
  · obtain rfl := Except.ok.inj h
    exact (coherent_blank ht id now).seedDefaults.header _
  · cases h

lemma Coherent.get (h : a.Coherent t) (ht : t.Declared) {name : String}
    {b : Artifact} {v : Option (Value Artifact)} (hg : a.get name = .ok (b, v)) : b.Coherent t := by
  obtain ⟨f, hf, rfl⟩ := get_ok hg
  exact h.withField ht hf rfl (h.legal _ (Dict.mem_of_lookup hf)).materialize

lemma Coherent.set [ArtifactPredicates] (h : a.Coherent t) (ht : t.Declared) {name : String}
    {b : Artifact} {v : Option (Value Artifact)} (hv : ∀ w, v = some w → w.Ordered)
    (hs : a.set name v = .ok b) : b.Coherent t := by
  obtain ⟨f, g, hf, _, hstore, rfl⟩ := set_ok hs
  obtain ⟨hlegal, hd⟩ := Field.legal_store (h.admitted ht (Dict.mem_of_lookup hf)) hv hstore
  exact h.withField ht hf hd hlegal

end

end Artifact

namespace ListEdit

lemma ordered_run {edit : ListEdit} {vs ws : List (Value Artifact)} {taken : Option (Value Artifact)}
    (h : edit.run vs = .ok (ws, taken)) (he : edit.Ordered) (hv : ∀ v ∈ vs, v.Ordered) :
    ∀ v ∈ ws, v.Ordered := by
  cases edit with
  | append v =>
    obtain ⟨rfl, _⟩ := Prod.mk.inj (Except.ok.inj h)
    intro w hw
    rcases List.mem_append.1 hw with hw | hw
    · exact hv w hw
    · obtain rfl := List.mem_singleton.1 hw
      exact he
  | extend us =>
    obtain ⟨rfl, _⟩ := Prod.mk.inj (Except.ok.inj h)
    intro w hw
    exact (List.mem_append.1 hw).elim (hv w) (he w)
  | insert i v =>
    simp only [run] at h
    split at h
    · obtain ⟨rfl, _⟩ := Prod.mk.inj (Except.ok.inj h)
      intro w hw
      rcases List.eq_or_mem_of_mem_insertIdx hw with rfl | hw
      · exact he
      · exact hv w hw
    · cases h
  | setItem i v =>
    simp only [run] at h
    split at h
    · obtain ⟨rfl, _⟩ := Prod.mk.inj (Except.ok.inj h)
      intro w hw
      rcases List.mem_or_eq_of_mem_set hw with hw | rfl
      · exact hv w hw
      · exact he
    · cases h
  | remove i =>
    simp only [run] at h
    split at h
    · obtain ⟨rfl, _⟩ := Prod.mk.inj (Except.ok.inj h)
      exact fun w hw => hv w (List.mem_of_mem_eraseIdx hw)
    · cases h
  | pop =>
    obtain ⟨rfl, _⟩ := Prod.mk.inj (Except.ok.inj h)
    exact fun w hw => hv w (List.mem_of_mem_dropLast hw)
  | clear =>
    obtain ⟨rfl, _⟩ := Prod.mk.inj (Except.ok.inj h)
    simp

end ListEdit

namespace DictEdit

lemma ordered_run (edit : DictEdit) {es : List (String × Value Artifact)} (he : edit.Ordered)
    (h : (Value.dict es).Ordered) : (Value.dict (edit.run es).1).Ordered := by
  have hs := h es .self
  have hv : ∀ e ∈ es, e.2.Ordered := fun e hm => h.child (Value.mem_children_dict hm)
  cases edit with
  | insert k v =>
    apply Definition.ordered_dict (hs.insert k v)
    intro e hm
    rcases Dict.mem_insert hm with rfl | hm
    · exact he
    · exact hv e hm
  | remove k =>
    exact Definition.ordered_dict (hs.erase k) fun e hm => hv e (List.mem_filter.1 hm).1
  | update entries =>
    apply Definition.ordered_dict (hs.update entries)
    intro e hm
    exact (Dict.mem_update hm).elim (hv e) (he e)
  | clear => exact Definition.ordered_dict .nil (by simp [run])

end DictEdit

namespace Guard

section

variable [Predicates Artifact]

lemma replace_ok {g g' : Guard} {v : Value Artifact} (h : g.replace v = .ok g') :
    ∃ f, g.field.store g.name (some v) = .ok f ∧ g' = { g with field := f } := by
  unfold Guard.replace at h
  obtain ⟨f, hf, hg⟩ := Outcome.bind_eq_ok.1 h
  exact ⟨f, hf, (Except.ok.inj hg).symm⟩

lemma editList_ok {g g' : Guard} {edit : ListEdit} {taken : Option (Value Artifact)}
    (h : g.editList edit = .ok (g', taken)) :
    ∃ vs, edit.run g.items = .ok (vs, taken) ∧ g.replace (.list vs) = .ok g' := by
  unfold Guard.editList at h
  obtain ⟨_, h⟩ := Outcome.guard_eq_ok.1 h
  split at h
  · cases h
  · rename_i vs taken' hrun
    obtain ⟨_, hg, h⟩ := Outcome.bind_eq_ok.1 h
    obtain ⟨rfl, rfl⟩ := Prod.mk.inj (Except.ok.inj h)
    exact ⟨vs, hrun, hg⟩

lemma editDict_ok {g g' : Guard} {edit : DictEdit} {previous : Option (Value Artifact)}
    (h : g.editDict edit = .ok (g', previous)) :
    g.replace (.dict (edit.run g.entries).1) = .ok g' := by
  unfold Guard.editDict at h
  obtain ⟨_, h⟩ := Outcome.guard_eq_ok.1 h
  obtain ⟨_, hg, h⟩ := Outcome.bind_eq_ok.1 h
  obtain ⟨rfl, _⟩ := Prod.mk.inj (Except.ok.inj h)
  exact hg

def Holds (name : String) (d : Definition Artifact) (g : Guard) : Prop :=
  g.name = name ∧ g.field.definition = d ∧ g.field.Legal name

lemma Holds.replace {name : String} {d : Definition Artifact} {g g' : Guard} (hd : d.Admitted name)
    (h : g.Holds name d) {v : Value Artifact} (hv : v.Ordered) (hr : g.replace v = .ok g') :
    g'.Holds name d := by
  obtain ⟨rfl, rfl, _⟩ := h
  obtain ⟨f, hf, rfl⟩ := replace_ok hr
  obtain ⟨hlegal, hdef⟩ := Field.legal_store hd (by rintro w ⟨⟩; exact hv) hf
  exact ⟨rfl, hdef, hlegal⟩

lemma Holds.items {name : String} {d : Definition Artifact} {g : Guard} (h : g.Holds name d) :
    ∀ v ∈ g.items, v.Ordered := by
  intro v hv
  unfold Guard.items at hv
  cases hs : g.field.stored with
  | none => simp [hs] at hv
  | some w =>
    cases w with
    | list vs =>
      have hm : v ∈ vs := by simpa [hs, Value.list?] using hv
      have hshown : g.field.value? = some (.list vs) := by simp [Field.value?, hs]
      exact (h.2.2.ordered hshown).child (show v ∈ (Value.list vs).children from hm)
    | _ => simp [hs, Value.list?] at hv

lemma Holds.entries {name : String} {d : Definition Artifact} {g : Guard} (h : g.Holds name d) :
    (Value.dict g.entries).Ordered := by
  unfold Guard.entries
  cases hs : g.field.stored with
  | none => exact Definition.ordered_dict .nil (by simp)
  | some w =>
    cases w with
    | dict es =>
      have hshown : g.field.value? = some (.dict es) := by simp [Field.value?, hs]
      exact h.2.2.ordered hshown
    | _ => exact Definition.ordered_dict .nil (by simp [Value.dict?])

lemma Holds.edited {name : String} {d : Definition Artifact} {g g' : Guard} (hd : d.Admitted name)
    (h : g.Holds name d) (he : g.Edited g') : g'.Holds name d := by
  induction he with
  | none => exact h
  | @list g₁ g₂ edit taken _ hord hr ih =>
    obtain ⟨vs, hrun, hg⟩ := editList_ok hr
    exact ih.replace hd (Definition.ordered_list (ListEdit.ordered_run hrun hord ih.items)) hg
  | @dict g₁ g₂ edit previous _ hord hr ih =>
    exact ih.replace hd (DictEdit.ordered_run edit hord ih.entries) (editDict_ok hr)

end

end Guard

namespace Artifact

section

variable [ArtifactPredicates] {a : Artifact}

lemma openList_ok {name : String} {g : Guard} (h : a.openList name = .ok g) :
    ∃ f, a.fields.lookup name = some f ∧ g = a.guard name f := by
  unfold openList at h
  obtain ⟨f, hf, h⟩ := Outcome.bind_eq_ok.1 h
  obtain ⟨_, h⟩ := Outcome.guard_eq_ok.1 h
  exact ⟨f, findField_ok hf, (Except.ok.inj h).symm⟩

lemma openDict_ok {name : String} {g : Guard} (h : a.openDict name = .ok g) :
    ∃ f, a.fields.lookup name = some f ∧ g = a.guard name f := by
  unfold openDict at h
  obtain ⟨f, hf, h⟩ := Outcome.bind_eq_ok.1 h
  obtain ⟨_, h⟩ := Outcome.guard_eq_ok.1 h
  exact ⟨f, findField_ok hf, (Except.ok.inj h).symm⟩

end

section

variable [ArtifactPredicates] [Predicates Artifact] {t : ArtifactType} {a : Artifact}

lemma editList_ok {b : Artifact} {name : String} {edit : ListEdit}
    {taken : Option (Value Artifact)} (h : a.editList name edit = .ok (b, taken)) :
    ∃ g g', a.openList name = .ok g ∧ g.editList edit = .ok (g', taken) ∧ b = a.close g' := by
  unfold Artifact.editList at h
  obtain ⟨g, hg, h⟩ := Outcome.bind_eq_ok.1 h
  obtain ⟨⟨g', _⟩, he, h⟩ := Outcome.bind_eq_ok.1 h
  obtain ⟨rfl, rfl⟩ := Prod.mk.inj (Except.ok.inj h)
  exact ⟨g, g', hg, he, rfl⟩

lemma Coherent.close (h : a.Coherent t) (ht : t.Declared) {name : String} {f : Field Artifact}
    (hf : a.fields.lookup name = some f) {g : Guard} (hg : (a.guard name f).Edited g) :
    (a.close g).Coherent t := by
  have hm := Dict.mem_of_lookup hf
  have hstart : (a.guard name f).Holds name f.definition :=
    ⟨rfl, rfl, (h.legal _ hm).materialize⟩
  obtain ⟨hname, hd, hlegal⟩ := hstart.edited (h.admitted ht hm) hg
  unfold Artifact.close
  rw [hname]
  exact h.withField ht hf hd hlegal

theorem Written.coherent (ht : t.Declared) (h : a.Written t) : a.Coherent t := by
  induction h with
  | blank id now => exact coherent_blank ht id now
  | create hc => exact coherent_create ht hc
  | header h _ ih => exact ih.header h
  | get _ hg ih => exact ih.get ht hg
  | set _ hv hs ih => exact ih.set ht hv hs
  | list _ ho he ih =>
    obtain ⟨f, hf, rfl⟩ := openList_ok ho
    exact ih.close ht hf he
  | dict _ ho he ih =>
    obtain ⟨f, hf, rfl⟩ := openDict_ok ho
    exact ih.close ht hf he

end

end Artifact

end TypedArtifacts
