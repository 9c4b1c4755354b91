import TypedArtifacts.Proofs.Artifact.Respect
import TypedArtifacts.Proofs.Artifact.Written
import TypedArtifacts.Proofs.Bag.Expanded
import TypedArtifacts.Proofs.Bag.Properties

/-! What is read from the bag of an artifact, attribute by attribute. -/

namespace TypedArtifacts.Artifact

structure Storable (a : Artifact) : Prop where
  shapeKept : ∀ e ∈ a.fields, ∀ p : Definition Artifact, p.Within e.2.definition → p.ShapeKept
  flattenable : ∀ e ∈ a.fieldsOf .property, e.2.definition.Flattenable
  expressible : ∀ e ∈ a.fieldsOf .property, ∀ v, e.2.value? = some v → v.Expressible
  dotless : ∀ e ∈ a.fieldsOf .property, ∀ v, e.2.value? = some v → e.2.definition.Dotless v
  complete : ∀ e ∈ a.fieldsOf .property, e.2.definition.required = true → e.2.value?.isSome = true

variable [Predicates Artifact]

lemma ofBag_values {c : Catalog} {y : Bag} {x : Artifact} (h : ofBag c y = .ok x) :
    ∃ t ps bs ds b, c.byName y.typeName (some y.typeVersion) = .ok t ∧
      (Leaves.ofProperties y.properties).mapM (fun e => propertyValue t e.1 e.2) = .ok ps ∧
      y.blobs.mapM (fun e => blobValue t e.1 e.2) = .ok bs ∧
      dependencyValues c t y.id y.dependencies = .ok ds ∧
      ofValues t y.id y.createdAt (ps ++ bs ++ ds) = .ok b ∧ x = { b with toHeader := y.toHeader } := by
  obtain ⟨header, name, version, properties, blobs, dependencies⟩ := y
  rw [ofBag] at h
  obtain ⟨t, ht, h⟩ := Outcome.bind_eq_ok.1 h
  obtain ⟨ps, hps, h⟩ := Outcome.bind_eq_ok.1 h
  obtain ⟨bs, hbs, h⟩ := Outcome.bind_eq_ok.1 h
  obtain ⟨ds, hds, h⟩ := Outcome.bind_eq_ok.1 h
  obtain ⟨b, hb, h⟩ := Outcome.bind_eq_ok.1 h
  obtain rfl := Except.ok.inj h
  exact ⟨t, ps, bs, ds, b, Outcome.mapError_eq_ok.1 ht, hps, hbs, hds,
    Outcome.mapError_eq_ok.1 hb, rfl⟩

lemma ofValues_ok {t : ArtifactType} {id : String} {now : Instant} {vs : Values} {b : Artifact}
    (h : ofValues t id now vs = .ok b) :
    (blank t id now).seedDefaults.storeAll vs = .ok b ∧ b.checkRequired = .ok () := by
  unfold ofValues at h
  obtain ⟨x, hx, h⟩ := Outcome.bind_eq_ok.1 h
  obtain ⟨_, hrequired, h⟩ := Outcome.bind_eq_ok.1 h
  obtain rfl := Except.ok.inj h
  exact ⟨hx, hrequired⟩

lemma ofBag_eq_ok {c : Catalog} {y : Bag} {x : Artifact} (h : ofBag c y = .ok x) :
    ∃ t ps bs ds b, c.byName y.typeName (some y.typeVersion) = .ok t ∧
      (Leaves.ofProperties y.properties).mapM (fun e => propertyValue t e.1 e.2) = .ok ps ∧
      y.blobs.mapM (fun e => blobValue t e.1 e.2) = .ok bs ∧
      dependencyValues c t y.id y.dependencies = .ok ds ∧
      (blank t y.id y.createdAt).seedDefaults.storeAll (ps ++ bs ++ ds) = .ok b ∧
      x = { b with toHeader := y.toHeader } := by
  obtain ⟨t, ps, bs, ds, b, ht, hps, hbs, hds, hb, rfl⟩ := ofBag_values h
  exact ⟨t, ps, bs, ds, b, ht, hps, hbs, hds, (ofValues_ok hb).1, rfl⟩

lemma header_ofBag {c : Catalog} {b : Bag} {a : Artifact} (h : ofBag c b = .ok a) :
    a.toHeader = b.toHeader := by
  obtain ⟨_, _, _, _, _, _, _, _, _, _, rfl⟩ := ofBag_eq_ok h
  rfl

namespace Coherent

variable {t : ArtifactType} {a : Artifact}

lemma mem_attributes (h : a.Coherent t) {e : String × Field Artifact} (he : e ∈ a.fields) :
    (e.1, e.2.definition) ∈ t.attributes :=
  h.definitions ▸ List.mem_map_of_mem he

lemma definitionOf_eq (h : a.Coherent t) (ht : t.Declared) {e : String × Field Artifact}
    (he : e ∈ a.fields) : definitionOf t e.1 = .ok e.2.definition := by
  rw [definitionOf, Dict.lookup_of_mem ht.attributes.1.nodup (h.mem_attributes he)]

lemma dotless (h : a.Coherent t) (ht : t.Declared) {e : String × Field Artifact}
    (he : e ∈ a.fields) : '.' ∉ e.1.toList :=
  Descriptor.dotless (h.admitted ht he).isName

lemma conforms (h : a.Coherent t) (ht : t.Declared) {e : String × Field Artifact}
    (he : e ∈ a.fields) (hshape : ∀ p : Definition Artifact, p.Within e.2.definition → p.ShapeKept)
    {v : Value Artifact} (hv : e.2.value? = some v) : e.2.definition.Conforms v := by
  obtain ⟨hvalid, w, hw, rfl⟩ := h.legal e he v hv
  exact Definition.conforms_of_valid _ ⟨(h.admitted ht he).built, hshape⟩ hw hvalid

end Coherent

omit [Predicates Artifact] in
lemma blobs_of_conforms {d : Definition Artifact} (hd : d.role = .blob) {v : Value Artifact}
    (h : d.Conforms v) : ∃ bs, Bag.itemsOf (·.blob?) (some v) = some bs ∧
      collect d (bs.map .blob) = some v := by
  obtain ⟨bs, hw⟩ := Definition.wraps_blobs hd h
  have hi := hw.itemsOf_eq (fun _ _ hl => nomatch hl) (·.blob?) id fun _ => rfl
  rw [List.map_id] at hi
  exact ⟨bs, hi, hw.collect_eq⟩

structure Sound (t : ArtifactType) (a : Artifact) : Prop where
  declared : t.Declared
  coherent : a.Coherent t
  storable : a.Storable

namespace Sound

variable {t : ArtifactType} {a : Artifact}

lemma sorted (h : a.Sound t) : Dict.Sorted a.fields :=
  h.coherent.sorted h.declared

lemma regular (h : a.Sound t) {e : String × Field Artifact} (he : e ∈ a.fields) :
    e.2.definition.Regular :=
  ⟨(h.coherent.admitted h.declared he).built, h.storable.shapeKept e he⟩

lemma conforms (h : a.Sound t) {e : String × Field Artifact} (he : e ∈ a.fields)
    {v : Value Artifact} (hv : e.2.value? = some v) : e.2.definition.Conforms v :=
  h.coherent.conforms h.declared he (h.storable.shapeKept e he) hv

lemma faithful (h : a.Sound t) {e : String × Field Artifact} (he : e ∈ a.fieldsOf .property) :
    ∀ v, e.2.value? = some v → e.2.definition.Faithful v := fun v hv =>
  ⟨h.conforms (mem_fieldsOf.1 he).1 hv, h.storable.expressible e he v hv,
    h.storable.dotless e he v hv⟩

lemma definitionOf_eq (h : a.Sound t) {e : String × Field Artifact} (he : e ∈ a.fields) :
    definitionOf t e.1 = .ok e.2.definition :=
  h.coherent.definitionOf_eq h.declared he

lemma peek_eq (h : a.Sound t) {e : String × Field Artifact} (he : e ∈ a.fields) :
    a.peek e.1 = e.2.value? := by
  rw [peek, field?, Dict.lookup_of_mem h.sorted.nodup he]
  rfl

def parts (a : Artifact) : List (String × Leaves) :=
  (a.fieldsOf .property).map fun e => (e.1, e.2.definition.spread e.2.value? false)

omit [Predicates Artifact] in
lemma keys_parts (a : Artifact) : Dict.keys (parts a) = Dict.keys (a.fieldsOf .property) :=
  Dict.keys_map (fun _ (f : Field Artifact) => f.definition.spread f.value? false) _

lemma nodup_parts (h : a.Sound t) : (Dict.keys (parts a)).Nodup := by
  have hs : Dict.Sorted (a.fieldsOf .property) := h.sorted.filter _
  rw [keys_parts]
  exact hs.nodup

lemma cuts_parts (h : a.Sound t) : Cuts cutAtDot (parts a) := by
  have hdot : ∀ e ∈ parts a, '.' ∉ e.1.toList := by
    intro e he
    obtain ⟨x, hx, rfl⟩ := List.mem_map.1 he
    exact h.coherent.dotless h.declared (mem_fieldsOf.1 hx).1
  exact ⟨fun e he _ => cutAtDot_dotless (hdot e he), fun e he _ _ => cutAtDot_keyUnder (hdot e he) _⟩

omit [Predicates Artifact] in
lemma flatMap_leaves (a : Artifact) :
    ((a.fieldsOf .property).flatMap fun e => e.2.definition.leaves e.1 e.2.value? false) =
      Leaves.join (parts a) := by
  rw [Leaves.join, parts, List.flatMap_map]
  exact List.flatMap_congr fun e _ => Definition.leaves_eq _ _ _ _

lemma propertiesOf_perm (h : a.Sound t) : (Bag.propertiesOf a).Perm (Leaves.join (parts a)) := by
  have hn : (Dict.keys (Leaves.join (parts a))).Nodup := by
    apply Leaves.nodup_join h.cuts_parts h.nodup_parts
    intro e he
    obtain ⟨x, hx, rfl⟩ := List.mem_map.1 he
    exact Definition.nodup_spread _ (h.regular (mem_fieldsOf.1 hx).1) (h.storable.flattenable x hx)
      (h.faithful hx) false
  have hp := Dict.ofList_perm hn
  rwa [← flatMap_leaves] at hp ⊢

omit [Predicates Artifact] in
lemma fromJsonAs_jsonOf {d : Definition Artifact} {v : Option (Value Artifact)} (hd : d.Flattenable)
    (hv : ∀ w, v = some w → d.Faithful w) (place : String) :
    d.fromJsonAs place (Definition.jsonOf v) = .ok v := by
  cases v with
  | none => exact Definition.fromJsonAs_null d place
  | some w =>
    exact Definition.fromJsonAs_toJson (hv w rfl).conforms hd.plain (hv w rfl).expressible place

lemma propertyValue_eq (h : a.Sound t) {e : String × Leaves}
    (he : e ∈ Leaves.ofProperties (Bag.propertiesOf a)) :
    propertyValue t e.1 e.2 = .ok (e.1, a.peek e.1) := by
  obtain ⟨l, hl, hown, hdotted⟩ :=
    Leaves.mem_ofProperties h.cuts_parts h.nodup_parts h.propertiesOf_perm he
  obtain ⟨x, hx, hxe⟩ := List.mem_map.1 hl
  obtain ⟨hk, rfl⟩ := Prod.mk.inj hxe
  have hm := (mem_fieldsOf.1 hx).1
  have hd := h.storable.flattenable x hx
  have hjson : Leaves.toJson x.2.definition e.2 = Definition.jsonOf x.2.value? := by
    have hr := Definition.returns _ (h.regular hm) hd x.2.value? false e.2.dotted (h.faithful hx)
      hdotted
    rwa [← hown] at hr
  rw [propertyValue, ← hk, h.definitionOf_eq hm, Outcome.ok_bind, hjson,
    fromJsonAs_jsonOf hd (h.faithful hx), h.peek_eq hm]
  rfl

lemma unset_of_absent (h : a.Sound t) {e : String × Field Artifact} (he : e ∈ a.fieldsOf .property)
    (hk : e.1 ∉ Dict.keys (Leaves.ofProperties (Bag.propertiesOf a))) : e.2.value? = none := by
  have hmem : (e.1, e.2.definition.spread e.2.value? false) ∈ parts a :=
    List.mem_map_of_mem he
  have hempty : e.2.definition.spread e.2.value? false = {} :=
    Leaves.eq_empty_of_absent h.cuts_parts h.nodup_parts h.propertiesOf_perm hmem hk
  have hr := Definition.returns _ (h.regular (mem_fieldsOf.1 he).1) (h.storable.flattenable e he)
    e.2.value? false [] (h.faithful he) (by rw [hempty])
  rw [hempty] at hr
  have hnull : Definition.jsonOf e.2.value? = .null :=
    hr.symm.trans (Leaves.gather_empty e.2.definition)
  cases hv : e.2.value? with
  | none => rfl
  | some v =>
    rw [hv] at hnull
    exact absurd hnull (Value.toJson_ne_null (h.storable.expressible e he v hv))

end Sound

def Agree (v w : Option (Value Artifact)) : Prop :=
  v.map settledValue = w.map settledValue

def Restores (a : Artifact) (name : String) (v : Option (Value Artifact)) : Prop :=
  ∃ f, (name, f) ∈ a.fields ∧ Agree v f.value? ∧ v.map f.definition.normalize = v ∧
    f.definition.validateAs name v = .ok ()

structure Decodes (a : Artifact) (role : Role) (vs : Values) : Prop where
  restores : ∀ e ∈ vs, a.Restores e.1 e.2
  covers : ∀ e ∈ a.fieldsOf role, e.1 ∈ Dict.keys vs ∨ e.2.value? = none

namespace Sound

variable {t : ArtifactType} {a : Artifact}

lemma restores_own (h : a.Sound t) {e : String × Field Artifact} (he : e ∈ a.fields)
    (hreq : e.2.definition.required = true → e.2.value?.isSome = true) :
    a.Restores e.1 e.2.value? := by
  refine ⟨e.2, he, rfl, ?_, ?_⟩
  · cases hv : e.2.value? with
    | none => rfl
    | some v => simp [(h.conforms he hv).normalize]
  · cases hv : e.2.value? with
    | none =>
      have hr : e.2.definition.required ≠ true := by
        intro hr
        have hs := hreq hr
        simp [hv] at hs
      obtain ⟨name, ⟨⟨traits, kind⟩, stored, assigned⟩⟩ := e
      simp only [Definition.validateAs]
      rw [if_neg hr]
    | some v => exact (h.coherent.legal e he v hv).1

theorem properties_decode (h : a.Sound t) :
    ∃ vs, (Leaves.ofProperties (Bag.propertiesOf a)).mapM (fun e => propertyValue t e.1 e.2) =
      .ok vs ∧ a.Decodes .property vs := by
  refine ⟨_, Outcome.mapM_ok fun e he => h.propertyValue_eq he, ?_, ?_⟩
  · intro x hx
    obtain ⟨e, he, rfl⟩ := List.mem_map.1 hx
    obtain ⟨l, hl, _⟩ := Leaves.mem_ofProperties h.cuts_parts h.nodup_parts h.propertiesOf_perm he
    obtain ⟨y, hy, hye⟩ := List.mem_map.1 hl
    obtain ⟨hk, _⟩ := Prod.mk.inj hye
    have hm := (mem_fieldsOf.1 hy).1
    rw [← hk, h.peek_eq hm]
    exact h.restores_own hm (h.storable.complete y hy)
  · intro e he
    by_cases hk : e.1 ∈ Dict.keys (Leaves.ofProperties (Bag.propertiesOf a))
    · apply Or.inl
      rw [Dict.keys, List.map_map]
      exact hk
    · exact Or.inr (h.unset_of_absent he hk)

omit [Predicates Artifact] in
lemma mem_selected {α : Type} {select : Value Artifact → Option α}
    {fields : List (String × Field Artifact)} {e : String × List α} :
    e ∈ Bag.selected select fields ↔
      ∃ f, (e.1, f) ∈ fields ∧ Bag.itemsOf select f.value? = some e.2 := by
  simp only [Bag.selected, List.mem_filterMap, Option.map_eq_some_iff]
  constructor
  · rintro ⟨x, hx, items, hi, rfl⟩
    exact ⟨x.2, hx, hi⟩
  · rintro ⟨f, hf, hi⟩
    exact ⟨(e.1, f), hf, e.2, hi, rfl⟩

omit [Predicates Artifact] in
lemma selected_cons {α : Type} (select : Value Artifact → Option α) (e : String × Field Artifact)
    (fields : List (String × Field Artifact)) : Bag.selected select (e :: fields) =
      ((Bag.itemsOf select e.2.value?).map fun items => (e.1, items)).toList ++
        Bag.selected select fields := by
  obtain ⟨name, f⟩ := e
  simp only [Bag.selected, List.filterMap_cons]
  cases Bag.itemsOf select f.value? <;> rfl

lemma blobs_of_field (h : a.Sound t) {e : String × Field Artifact} (he : e ∈ a.fieldsOf .blob)
    {v : Value Artifact} (hv : e.2.value? = some v) : ∃ bs,
      Bag.itemsOf (·.blob?) e.2.value? = some bs ∧
        collect e.2.definition (bs.map .blob) = e.2.value? := by
  obtain ⟨hm, hrole⟩ := mem_fieldsOf.1 he
  rw [hv]
  exact blobs_of_conforms hrole (h.conforms hm hv)

lemma blobValue_eq (h : a.Sound t) {e : String × List Blob}
    (he : e ∈ Bag.selected (·.blob?) (a.fieldsOf .blob)) :
    blobValue t e.1 e.2 = .ok (e.1, a.peek e.1) ∧ a.Restores e.1 (a.peek e.1) := by
  obtain ⟨f, hf, hi⟩ := mem_selected.1 he
  have hm : (e.1, f) ∈ a.fields := (mem_fieldsOf.1 hf).1
  have hpeek : a.peek e.1 = f.value? := h.peek_eq hm
  cases hv : f.value? with
  | none => simp [hv, Bag.itemsOf] at hi
  | some v =>
    obtain ⟨bs, hbs, hc⟩ := h.blobs_of_field hf hv
    obtain rfl : bs = e.2 := Option.some.inj (hbs.symm.trans hi)
    have hd : definitionOf t e.1 = .ok f.definition := h.definitionOf_eq hm
    refine ⟨?_, ?_⟩
    · rw [blobValue, hd, Outcome.ok_bind, hc, hpeek]
      rfl
    · rw [hpeek]
      exact h.restores_own hm fun _ => by simp [hv]

theorem blobs_decode (h : a.Sound t) :
    ∃ vs, (Bag.selected (·.blob?) (a.fieldsOf .blob)).mapM (fun e => blobValue t e.1 e.2) =
      .ok vs ∧ a.Decodes .blob vs := by
  refine ⟨_, Outcome.mapM_ok fun e he => (h.blobValue_eq he).1, ?_, ?_⟩
  · intro x hx
    obtain ⟨e, he, rfl⟩ := List.mem_map.1 hx
    exact (h.blobValue_eq he).2
  · intro e he
    cases hv : e.2.value? with
    | none => exact Or.inr rfl
    | some v =>
      obtain ⟨bs, hbs, _⟩ := h.blobs_of_field he hv
      apply Or.inl
      rw [Dict.keys, List.map_map]
      exact List.mem_map_of_mem (f := _) (mem_selected.2 ⟨e.2, he, hbs⟩ : (e.1, bs) ∈ _)

def Recovers (c : Catalog) (b : Bag) (a : Artifact) : Prop :=
  ∃ a', ofBag c b = .ok a' ∧ a'.settled = a.settled

lemma targetValues_ok {c : Catalog} (id : String) {ts : List Artifact}
    (h : ∀ x ∈ ts, Recovers c x.expanded x) :
    ∃ us : List Artifact, targetValues c id (ts.map fun x => .expanded x.expanded) =
      .ok (us.map .artifact) ∧ us.map settled = ts.map settled := by
  induction ts with
  | nil => exact ⟨[], rfl, rfl⟩
  | cons x ts ih =>
    obtain ⟨u, hu, hs⟩ := h x List.mem_cons_self
    obtain ⟨us, hus, hss⟩ := ih fun y hy => h y (List.mem_cons_of_mem _ hy)
    refine ⟨u :: us, ?_, by simp [hs, hss]⟩
    rw [List.map_cons, targetValues, hu, Outcome.ok_bind, hus]
    rfl

omit [Predicates Artifact] in
lemma collect_agree (d : Definition Artifact) {vs ws : List (Value Artifact)}
    (h : vs.map settledValue = ws.map settledValue) : Agree (collect d vs) (collect d ws) := by
  unfold Agree collect
  split
  · simp [settledValue, settledItems_eq, h]
  · rw [← List.head?_map, ← List.head?_map, h]

omit [Predicates Artifact] in
lemma collect_settled (d : Definition Artifact) {us ts : List Artifact}
    (h : us.map settled = ts.map settled) :
    Agree (collect d (us.map .artifact)) (collect d (ts.map .artifact)) := by
  apply collect_agree
  have hval : ∀ xs : List Artifact, (xs.map Value.artifact).map settledValue =
      (xs.map settled).map .artifact := fun xs => by simp [settledValue]
  rw [hval, hval, h]

lemma restores_dependency (h : a.Sound t) (hp : a.Impartial)
    {e : String × Field Artifact} (he : e ∈ a.fieldsOf .dependency) {v w : Value Artifact}
    (hv : e.2.value? = some v) (hw : settledValue w = settledValue v) :
    a.Restores e.1 (some w) := by
  obtain ⟨hm, hrole⟩ := mem_fieldsOf.1 he
  refine ⟨e.2, hm, ?_, ?_, ?_⟩
  · rw [Agree, hv, Option.map_some, Option.map_some, hw]
  · rw [Option.map_some, Definition.normalize_dependency hrole]
  · exact Definition.validateAs_congr Value.alike_settled (hp e he).respects hw.symm
      (h.coherent.legal e hm v hv).1

lemma targets_of_field (h : a.Sound t) (hp : a.Impartial) {c : Catalog} (id : String)
    (ih : ∀ x : Artifact, x.Refers a → Recovers c x.expanded x) {e : String × Field Artifact}
    (he : e ∈ a.fieldsOf .dependency) {v : Value Artifact} (hv : e.2.value? = some v) :
    ∃ entries vs, Bag.itemsOf expandedEntry e.2.value? = some entries ∧
      targetValues c id entries = .ok vs ∧ a.Restores e.1 (collect e.2.definition vs) := by
  obtain ⟨hm, hrole⟩ := mem_fieldsOf.1 he
  obtain ⟨ts, hw⟩ := Definition.wraps_targets hrole (h.conforms hm hv)
  have hrefers : ∀ x ∈ ts, x.Refers a := fun x hx => ⟨e, hm, v, hv, hw.refers hx⟩
  obtain ⟨us, hus, hsettled⟩ := targetValues_ok id fun x hx => ih x (hrefers x hx)
  have hi := hw.itemsOf_eq (fun _ _ hl => nomatch hl) expandedEntry
    (fun x => .expanded x.expanded) fun _ => rfl
  have hagree := collect_settled e.2.definition hsettled
  rw [hw.collect_eq] at hagree
  obtain ⟨w, hcollect, hvw⟩ := Option.map_eq_some_iff.1 hagree
  refine ⟨_, _, hv ▸ hi, hus, ?_⟩
  rw [hcollect]
  exact h.restores_dependency hp he hv hvw

lemma dependencyValues_ok (h : a.Sound t) (hp : a.Impartial) {c : Catalog} (id : String)
    (ih : ∀ x : Artifact, x.Refers a → Recovers c x.expanded x)
    {fields : List (String × Field Artifact)} (hf : ∀ e ∈ fields, e ∈ a.fieldsOf .dependency) :
    ∃ vs, dependencyValues c t id (Bag.selected expandedEntry fields) = .ok vs ∧
      (∀ e ∈ vs, a.Restores e.1 e.2) ∧
        ∀ e ∈ fields, e.1 ∈ Dict.keys vs ∨ e.2.value? = none := by
  induction fields with
  | nil => exact ⟨[], rfl, by simp, by simp⟩
  | cons e fields ihf =>
    obtain ⟨vs, hvs, hr, hk⟩ := ihf fun x hx => hf x (List.mem_cons_of_mem _ hx)
    have he := hf e List.mem_cons_self
    have hd := h.definitionOf_eq (mem_fieldsOf.1 he).1
    rw [selected_cons]
    cases hv : e.2.value? with
    | none =>
      refine ⟨vs, hvs, hr, fun x hx => ?_⟩
      rcases List.mem_cons.1 hx with rfl | hx
      · exact Or.inr hv
      · exact hk x hx
    | some v =>
      obtain ⟨entries, ws, hi, hws, hrest⟩ := h.targets_of_field hp id ih he hv
      rw [hv] at hi
      refine ⟨(e.1, collect e.2.definition ws) :: vs, ?_, ?_, ?_⟩
      · rw [hi, Option.map_some, Option.toList_some, List.singleton_append, dependencyValues, hd,
          Outcome.ok_bind, hws, Outcome.ok_bind, hvs]
        rfl
      · intro x hx
        rcases List.mem_cons.1 hx with rfl | hx
        · exact hrest
        · exact hr x hx
      · intro x hx
        rcases List.mem_cons.1 hx with rfl | hx
        · exact Or.inl List.mem_cons_self
        · exact (hk x hx).imp_left (List.mem_cons_of_mem _)

theorem dependencies_decode (h : a.Sound t) (hp : a.Impartial) {c : Catalog}
    (ih : ∀ x : Artifact, x.Refers a → Recovers c x.expanded x) (id : String) :
    ∃ vs, dependencyValues c t id (Bag.selected expandedEntry (a.fieldsOf .dependency)) = .ok vs ∧
      a.Decodes .dependency vs := by
  obtain ⟨vs, hvs, hr, hk⟩ := h.dependencyValues_ok hp id ih fun e he => he
  exact ⟨vs, hvs, hr, hk⟩

end Sound

end TypedArtifacts.Artifact
