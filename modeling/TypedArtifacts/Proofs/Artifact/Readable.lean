import TypedArtifacts.Proofs.Artifact.Reread
import TypedArtifacts.Proofs.Bag.Restored
import TypedArtifacts.Proofs.Bag.Share

/-! Which artifacts can be read again from their expanded bags. -/

namespace TypedArtifacts

namespace Definition

def Takes {ρ : Type} [Referent ρ] [Predicates ρ] (d : Definition ρ) (name : String)
    (v : Option (Value ρ)) : Prop :=
  d.validateAs name (v.map d.normalize) = .ok ()

lemma Takes.isSome {ρ : Type} [Referent ρ] [Predicates ρ] {d : Definition ρ} {name : String}
    {v : Option (Value ρ)} (h : d.Takes name v) (hr : d.required = true) : v.isSome = true := by
  cases v with
  | some v => rfl
  | none =>
    obtain ⟨t, kind⟩ := d
    simp [Takes, validateAs, show t.required = true from hr] at h

end Definition

namespace Artifact

section

variable [Predicates Artifact]

lemma storeAll_takes {b : Artifact} {vs : Values} (hs : Dict.Sorted b.definitions) :
    (∃ c, b.storeAll vs = .ok c) ↔
      ∀ x ∈ vs, ∃ d, (x.1, d) ∈ b.definitions ∧ d.Takes x.1 x.2 := by
  induction vs generalizing b with
  | nil => exact ⟨fun _ => nofun, fun _ => ⟨b, rfl⟩⟩
  | cons e vs ih =>
    rw [List.forall_mem_cons]
    have hkept : ∀ f, b.fields.lookup e.1 = some f → ∀ v,
        (b.withField e.1 (f.commit v)).definitions = b.definitions := fun f hf v =>
      definitions_withField (sorted_fields hs) hf (show (f.commit v).definition = f.definition from rfl)
    constructor
    · rintro ⟨c, h⟩
      obtain ⟨f, hl, htakes, h⟩ := storeAll_cons.1 h
      have hrest := (ih (hkept f hl _ ▸ hs)).1 ⟨c, h⟩
      rw [hkept f hl] at hrest
      exact ⟨⟨f.definition, List.mem_map_of_mem (Dict.mem_of_lookup hl), htakes⟩, hrest⟩
    · rintro ⟨⟨d, hd, htakes⟩, hrest⟩
      obtain ⟨x, hx, hxe⟩ := List.mem_map.1 hd
      obtain ⟨hname, rfl⟩ := Prod.mk.inj hxe
      have hl : b.fields.lookup e.1 = some x.2 :=
        Dict.lookup_of_mem (sorted_fields hs).nodup (hname ▸ hx)
      rw [← hkept x.2 hl (e.2.map x.2.definition.normalize)] at hrest
      obtain ⟨c, hc⟩ := (ih (hkept x.2 hl _ ▸ hs)).2 hrest
      exact ⟨c, storeAll_cons.2 ⟨x.2, hl, htakes, hc⟩⟩

lemma storeAll_required {b c : Artifact} {vs : Values} (hs : Dict.Sorted b.definitions)
    (h : b.storeAll vs = .ok c) {name : String} {d : Definition Artifact}
    (hd : (name, d) ∈ b.definitions) (hr : d.required = true) :
    (c.peek name).isSome = true ↔ name ∈ Dict.keys vs ∨ (b.peek name).isSome = true := by
  induction vs generalizing b with
  | nil =>
    obtain rfl := Except.ok.inj h
    simp
  | cons e vs ih =>
    obtain ⟨f, hl, htakes, h⟩ := storeAll_cons.1 h
    have hkept : (b.withField e.1 (f.commit (e.2.map f.definition.normalize))).definitions =
        b.definitions := definitions_withField (sorted_fields hs) hl rfl
    -- A required attribute takes no value but a set one, so the name shows what it was given.
    rw [ih (hkept ▸ hs) h (hkept ▸ hd), peek_withField hl, Dict.keys_cons, List.mem_cons]
    by_cases hname : name = e.1
    · subst hname
      have hdef : f.definition = d := by
        have hlook := Dict.lookup_of_mem hs.nodup hd
        rw [lookup_definitions, hl] at hlook
        exact Option.some.inj hlook
      obtain ⟨v, hv⟩ := Option.isSome_iff_exists.1
        (Definition.Takes.isSome (d := f.definition) htakes (hdef ▸ hr))
      simp [Field.commit, Field.value?, hv]
    · simp [hname]

structure Fills (t : ArtifactType) (vs : Values) : Prop where
  taken : ∀ x ∈ vs, ∃ d, (x.1, d) ∈ t.attributes ∧ d.Takes x.1 x.2
  complete : ∀ e ∈ t.attributes, e.2.role = .property → e.2.required = true →
    e.1 ∈ Dict.keys vs ∨ e.2.default.isSome = true

lemma ofValues_fills {t : ArtifactType} (ht : t.Declared) (id : String) (now : Instant)
    (vs : Values) : (∃ x, ofValues t id now vs = .ok x) ↔ Fills t vs := by
  have hnew : ((blank t id now).seedDefaults).definitions = t.attributes :=
    ((coherent_blank ht id now).seedDefaults).definitions
  have hs : Dict.Sorted ((blank t id now).seedDefaults).definitions := hnew ▸ ht.attributes.1
  have hpeek : ∀ e ∈ t.attributes, ((blank t id now).seedDefaults).peek e.1 = e.2.default := by
    intro e he
    rw [peek_seedDefaults, peek_blank, Dict.lookup_of_mem ht.attributes.1.nodup he]
    rfl
  have hrequired : ∀ b, ((blank t id now).seedDefaults).storeAll vs = .ok b →
      (b.checkRequired = .ok () ↔ ∀ e ∈ t.attributes, e.2.role = .property →
        e.2.required = true → e.1 ∈ Dict.keys vs ∨ e.2.default.isSome = true) := by
    intro b hb
    obtain ⟨_, hd, _⟩ := storeAll_peek hs hb
    rw [checkRequired_eq_ok (hd ▸ hs), hd, hnew]
    refine forall₂_congr fun e he => forall₂_congr fun _ hr => ?_
    rw [storeAll_required hs hb (hnew ▸ he) hr, hpeek e he]
  have htaken : (∃ b, ((blank t id now).seedDefaults).storeAll vs = .ok b) ↔
      ∀ x ∈ vs, ∃ d, (x.1, d) ∈ t.attributes ∧ d.Takes x.1 x.2 := hnew ▸ storeAll_takes hs
  constructor
  · rintro ⟨x, hx⟩
    obtain ⟨b, hb, hx⟩ := Outcome.bind_eq_ok.1 hx
    obtain ⟨_, hcheck, _⟩ := Outcome.bind_eq_ok.1 hx
    exact ⟨htaken.1 ⟨b, hb⟩, (hrequired b hb).1 hcheck⟩
  · rintro ⟨htakes, hcomplete⟩
    obtain ⟨b, hb⟩ := htaken.2 htakes
    exact ⟨b, Outcome.bind_eq_ok.2 ⟨b, hb, Outcome.bind_eq_ok.2
      ⟨(), (hrequired b hb).2 hcomplete, rfl⟩⟩⟩

lemma ofBag_isOk {c : Catalog} {t : ArtifactType} (ht : t.Declared) {y : Bag}
    (hname : c.byName y.typeName (some y.typeVersion) = .ok t) :
    (∃ x, ofBag c y = .ok x) ↔ ∃ ps bs ds,
      (Leaves.ofProperties y.properties).mapM (fun e => propertyValue t e.1 e.2) = .ok ps ∧
      y.blobs.mapM (fun e => blobValue t e.1 e.2) = .ok bs ∧
      dependencyValues c t y.id y.dependencies = .ok ds ∧ Fills t (ps ++ bs ++ ds) := by
  obtain ⟨header, name, version, properties, blobs, dependencies⟩ := y
  rw [ofBag, hname]
  constructor
  · rintro ⟨x, hx⟩
    obtain ⟨_, htype, hx⟩ := Outcome.bind_eq_ok.1 hx
    obtain rfl := Except.ok.inj htype
    obtain ⟨ps, hps, hx⟩ := Outcome.bind_eq_ok.1 hx
    obtain ⟨bs, hbs, hx⟩ := Outcome.bind_eq_ok.1 hx
    obtain ⟨ds, hds, hx⟩ := Outcome.bind_eq_ok.1 hx
    obtain ⟨b, hb, _⟩ := Outcome.bind_eq_ok.1 hx
    exact ⟨ps, bs, ds, hps, hbs, hds, (ofValues_fills ht _ _ _).1 ⟨b, Outcome.mapError_eq_ok.1 hb⟩⟩
  · rintro ⟨ps, bs, ds, hps, hbs, hds, hfills⟩
    obtain ⟨b, hb⟩ := (ofValues_fills ht header.id header.createdAt _).2 hfills
    refine ⟨{ b with toHeader := header }, Outcome.bind_eq_ok.2 ⟨t, rfl, ?_⟩⟩
    refine Outcome.bind_eq_ok.2 ⟨ps, hps, Outcome.bind_eq_ok.2 ⟨bs, hbs, ?_⟩⟩
    refine Outcome.bind_eq_ok.2 ⟨ds, hds, Outcome.bind_eq_ok.2 ⟨b, ?_, rfl⟩⟩
    rw [hb]
    rfl

end

structure Reading where
  stored : String → Field Artifact → Prop
  read : String → Field Artifact → Option (Option (Value Artifact))

namespace Reading

def ofLeaves : Reading where
  stored name f := f.definition.leaves name f.value? false ≠ []
  read name f := (f.definition.fromJsonAs name (f.definition.readBack name (share name f))).toOption

lemma ofLeaves_read (name : String) (f : Field Artifact) : ofLeaves.read name f =
    (f.definition.fromJsonAs name (f.definition.readBack name (share name f))).toOption := rfl

def ofBlobs : Reading where
  stored _ f := (Bag.itemsOf (·.blob?) f.value?).isSome = true
  read _ f := (Bag.itemsOf (·.blob?) f.value?).map fun bs => collect f.definition (bs.map .blob)

section

variable [Predicates Artifact]

def ofTargets (c : Catalog) : Reading where
  stored _ f := (Bag.itemsOf (·.artifact?) f.value?).isSome = true
  read _ f := (Bag.itemsOf (·.artifact?) f.value?).bind fun ts =>
    (ts.mapM fun x => (ofBag c x.expanded).toOption).map fun xs =>
      collect f.definition (xs.map .artifact)

def Accepts (r : Reading) (name : String) (f : Field Artifact) : Prop :=
  r.stored name f → ∃ w, r.read name f = some w ∧ f.definition.Takes name w

omit [Predicates Artifact] in
structure Gives (r : Reading) (fields : List (String × Field Artifact)) (vs : Values) : Prop where
  sound : ∀ x ∈ vs, ∃ f, (x.1, f) ∈ fields ∧ r.stored x.1 f ∧ r.read x.1 f = some x.2
  total : ∀ e ∈ fields, r.stored e.1 e.2 → e.1 ∈ Dict.keys vs

lemma Gives.taken_iff {r : Reading} {fields : List (String × Field Artifact)} {vs : Values}
    (h : r.Gives fields vs) (hn : (Dict.keys fields).Nodup)
    {ds : List (String × Definition Artifact)} (hs : Dict.Sorted ds)
    (hfields : ∀ e ∈ fields, (e.1, e.2.definition) ∈ ds) :
    (∀ x ∈ vs, ∃ d, (x.1, d) ∈ ds ∧ d.Takes x.1 x.2) ↔ ∀ e ∈ fields, r.Accepts e.1 e.2 := by
  constructor
  · intro htaken e he hstored
    obtain ⟨x, hx, hxe⟩ := List.mem_map.1 (h.total e he hstored)
    obtain ⟨d, hd, htakes⟩ := htaken x hx
    obtain ⟨f, hf, _, hread⟩ := h.sound x hx
    rw [hxe] at hd hf htakes hread
    obtain rfl : f = e.2 :=
      Option.some.inj ((Dict.lookup_of_mem hn hf).symm.trans (Dict.lookup_of_mem hn he))
    obtain rfl : d = e.2.definition := Option.some.inj
      ((Dict.lookup_of_mem hs.nodup hd).symm.trans (Dict.lookup_of_mem hs.nodup (hfields e he)))
    exact ⟨x.2, hread, htakes⟩
  · intro haccepts x hx
    obtain ⟨f, hf, hstored, hread⟩ := h.sound x hx
    obtain ⟨w, hw, htakes⟩ := haccepts _ hf hstored
    obtain rfl := Option.some.inj (hread.symm.trans hw)
    exact ⟨f.definition, hfields _ hf, htakes⟩

omit [Predicates Artifact] in
lemma gives_of_mapM {r : Reading} {fields : List (String × Field Artifact)} {α : Type}
    {entries : List (String × α)} {readEntry : String × α → Except Fault (String × Option (Value Artifact))}
    {vs : Values} (hvs : entries.mapM readEntry = .ok vs)
    (hfield : ∀ e ∈ entries, ∃ f, (e.1, f) ∈ fields ∧ r.stored e.1 f ∧
      ∀ x, readEntry e = .ok x → x.1 = e.1 ∧ r.read e.1 f = some x.2)
    (hstored : ∀ e ∈ fields, r.stored e.1 e.2 → e.1 ∈ Dict.keys entries) : r.Gives fields vs where
  sound x hx := by
    obtain ⟨e, he, hread⟩ := Outcome.exists_left (Outcome.mapM_eq_ok.1 hvs) hx
    obtain ⟨f, hf, hs, hvalue⟩ := hfield e he
    obtain ⟨hname, hvalue⟩ := hvalue x hread
    rw [hname]
    exact ⟨f, hf, hs, hvalue⟩
  total e he hs := by
    obtain ⟨l, hl, hle⟩ := List.mem_map.1 (hstored e he hs)
    obtain ⟨x, hx, hread⟩ := Outcome.exists_right (Outcome.mapM_eq_ok.1 hvs) hl
    obtain ⟨_, _, _, hvalue⟩ := hfield l hl
    rw [← hle, ← (hvalue x hread).1]
    exact Dict.mem_keys_of_mem hx

end

end Reading

namespace Coherent

open Reading

variable [Predicates Artifact] {t : ArtifactType} {a : Artifact}

lemma mem_keys_properties (h : a.Coherent t) (ht : t.Declared) {name : String} {f : Field Artifact}
    (hf : (name, f) ∈ a.fieldsOf .property) :
    name ∈ Dict.keys (Leaves.ofProperties (Bag.propertiesOf a)) ↔ ofLeaves.stored name f := by
  have hshare := h.filter_propertiesOf ht hf
  have hnil : share name f = [] ↔ f.definition.leaves name f.value? false = [] := by
    have hkeys : Dict.keys (share name f) = [] ↔
        Dict.keys (f.definition.leaves name f.value? false) = [] := by
      simp only [List.eq_nil_iff_forall_not_mem]
      exact forall_congr' fun key => not_congr Dict.mem_keys_ofList
    rwa [Dict.keys, Dict.keys, List.map_eq_nil_iff, List.map_eq_nil_iff] at hkeys
  change _ ↔ ¬ f.definition.leaves name f.value? false = []
  rw [Leaves.mem_keys_ofProperties, ← hnil, ← hshare, List.filter_eq_nil_iff]
  simp

lemma field_of_property (h : a.Coherent t) (ht : t.Declared) {name : String}
    (hk : name ∈ Dict.keys (Leaves.ofProperties (Bag.propertiesOf a))) :
    ∃ f, (name, f) ∈ a.fieldsOf .property ∧ ofLeaves.stored name f := by
  obtain ⟨x, hx, rfl⟩ := Leaves.mem_keys_ofProperties.1 hk
  obtain ⟨⟨name, f⟩, hf, hxf⟩ := List.mem_flatMap.1 (Dict.mem_ofList hx)
  have hleaf : x ∈ f.definition.leaves name f.value? false := hxf
  rw [Definition.leaves_eq] at hleaf
  have hcut := Leaves.cut_of_mem_under (h.dotless ht (mem_fieldsOf.1 hf).1) hleaf
  rw [hcut] at hk ⊢
  exact ⟨f, hf, (h.mem_keys_properties ht hf).1 hk⟩

lemma propertyValue_eq (h : a.Coherent t) (ht : t.Declared) {e : String × Leaves}
    (he : e ∈ Leaves.ofProperties (Bag.propertiesOf a)) {f : Field Artifact}
    (hf : (e.1, f) ∈ a.fieldsOf .property) {x : String × Option (Value Artifact)} :
    propertyValue t e.1 e.2 = .ok x ↔ x.1 = e.1 ∧ ofLeaves.read e.1 f = some x.2 := by
  have hjson : e.2.toJson f.definition = f.definition.readBack e.1 (share e.1 f) := by
    rw [← h.filter_propertiesOf ht hf, Definition.readBack_filter, Definition.readBack,
      Dict.lookup_of_mem (Leaves.sorted_ofProperties _).nodup he]
    rfl
  rw [propertyValue, h.definitionOf_eq ht (mem_fieldsOf.1 hf).1, Outcome.ok_bind, hjson,
    ofLeaves_read, Outcome.toOption_eq_some, Outcome.bind_eq_ok]
  constructor
  · rintro ⟨w, hw, hx⟩
    obtain rfl := Except.ok.inj hx
    exact ⟨rfl, Outcome.mapError_eq_ok.1 hw⟩
  · rintro ⟨hx, hw⟩
    exact ⟨x.2, Outcome.mapError_eq_ok.2 hw, by rw [← hx]; rfl⟩

lemma gives_leaves (h : a.Coherent t) (ht : t.Declared) {ps : Values}
    (hps : (Leaves.ofProperties (Bag.propertiesOf a)).mapM (fun e => propertyValue t e.1 e.2) =
      .ok ps) : ofLeaves.Gives (a.fieldsOf .property) ps := by
  refine gives_of_mapM hps (fun e he => ?_) fun e he hs => (h.mem_keys_properties ht he).2 hs
  obtain ⟨f, hf, hs⟩ := h.field_of_property ht (Dict.mem_keys_of_mem he)
  exact ⟨f, hf, hs, fun x => (h.propertyValue_eq ht he hf).1⟩

lemma exists_leaves (h : a.Coherent t) (ht : t.Declared)
    (haccepts : ∀ e ∈ a.fieldsOf .property, ofLeaves.Accepts e.1 e.2) :
    ∃ ps, (Leaves.ofProperties (Bag.propertiesOf a)).mapM (fun e => propertyValue t e.1 e.2) =
      .ok ps := by
  refine Outcome.exists_mapM_ok.2 fun e he => ?_
  obtain ⟨f, hf, hs⟩ := h.field_of_property ht (Dict.mem_keys_of_mem he)
  obtain ⟨w, hw, _⟩ := haccepts _ hf hs
  exact ⟨(e.1, w), (h.propertyValue_eq ht he hf).2 ⟨rfl, hw⟩⟩

omit [Predicates Artifact] in
lemma mem_keys_selected {α : Type} {select : Value Artifact → Option α}
    {fields : List (String × Field Artifact)} {e : String × Field Artifact} (he : e ∈ fields)
    (hs : (Bag.itemsOf select e.2.value?).isSome = true) :
    e.1 ∈ Dict.keys (Bag.selected select fields) := by
  obtain ⟨items, hi⟩ := Option.isSome_iff_exists.1 hs
  have hm : (e.1, items) ∈ Bag.selected select fields := Sound.mem_selected.2 ⟨e.2, he, hi⟩
  exact Dict.mem_keys_of_mem hm

lemma blobValue_eq (h : a.Coherent t) (ht : t.Declared) {name : String} {f : Field Artifact}
    (hf : (name, f) ∈ a.fieldsOf .blob) (bs : List Blob) :
    blobValue t name bs = .ok (name, collect f.definition (bs.map .blob)) := by
  rw [blobValue, h.definitionOf_eq ht (mem_fieldsOf.1 hf).1]
  rfl

lemma gives_blobs (h : a.Coherent t) (ht : t.Declared) {bs : Values}
    (hbs : (Bag.selected (·.blob?) (a.fieldsOf .blob)).mapM (fun e => blobValue t e.1 e.2) =
      .ok bs) : ofBlobs.Gives (a.fieldsOf .blob) bs := by
  refine gives_of_mapM hbs (fun e he => ?_) fun e he hs => mem_keys_selected he hs
  obtain ⟨f, hf, hi⟩ := Sound.mem_selected.1 he
  refine ⟨f, hf, Option.isSome_iff_exists.2 ⟨_, hi⟩, fun x hx => ?_⟩
  rw [h.blobValue_eq ht hf] at hx
  obtain rfl := Except.ok.inj hx
  exact ⟨rfl, Option.map_eq_some_iff.2 ⟨_, hi, rfl⟩⟩

lemma exists_blobs (h : a.Coherent t) (ht : t.Declared) :
    ∃ bs, (Bag.selected (·.blob?) (a.fieldsOf .blob)).mapM (fun e => blobValue t e.1 e.2) =
      .ok bs := by
  refine Outcome.exists_mapM_ok.2 fun e he => ?_
  obtain ⟨f, hf, _⟩ := Sound.mem_selected.1 he
  exact ⟨_, h.blobValue_eq ht hf _⟩

omit [Predicates Artifact] in
lemma itemsOf_expandedEntry (v : Option (Value Artifact)) :
    Bag.itemsOf expandedEntry v =
      (Bag.itemsOf (·.artifact?) v).map (·.map fun x => .expanded x.expanded) :=
  (itemsOf_map (·.artifact?) (fun x => DependencyEntry.expanded x.expanded) v).symm

lemma targetValues_expanded (c : Catalog) (id : String) (ts : List Artifact) :
    (targetValues c id (ts.map fun x => .expanded x.expanded)).toOption =
      (ts.mapM fun x => (ofBag c x.expanded).toOption).map (·.map .artifact) := by
  induction ts with
  | nil => rfl
  | cons x ts ih =>
    rw [List.map_cons, targetValues, Outcome.toOption_bind, List.mapM_cons]
    cases (ofBag c x.expanded).toOption with
    | none => rfl
    | some y =>
      simp only [Option.bind_some, Outcome.toOption_bind, ih]
      cases ts.mapM fun x => (ofBag c x.expanded).toOption <;> rfl

def dependencyValue (c : Catalog) (t : ArtifactType) (id : String)
    (p : String × List (DependencyEntry Bag)) : Except Fault (String × Option (Value Artifact)) := do
  let d ← definitionOf t p.1
  let targets ← targetValues c id p.2
  return (p.1, collect d targets)

lemma dependencyValues_eq_mapM (c : Catalog) (t : ArtifactType) (id : String)
    (deps : List (String × List (DependencyEntry Bag))) :
    dependencyValues c t id deps = deps.mapM (dependencyValue c t id) := by
  induction deps with
  | nil => rfl
  | cons p deps ih =>
    rw [dependencyValues, List.mapM_cons, ← ih, dependencyValue]
    cases definitionOf t p.1 with
    | error e => rfl
    | ok d =>
      cases targetValues c id p.2 with
      | error e => rfl
      | ok ws => simp

lemma dependencyValue_eq (h : a.Coherent t) (ht : t.Declared) {c : Catalog} {id : String}
    {e : String × List (DependencyEntry Bag)}
    (he : e ∈ Bag.selected expandedEntry (a.fieldsOf .dependency)) :
    ∃ f, (e.1, f) ∈ a.fieldsOf .dependency ∧ (ofTargets c).stored e.1 f ∧
      ∀ x, dependencyValue c t id e = .ok x ↔ x.1 = e.1 ∧ (ofTargets c).read e.1 f = some x.2 := by
  obtain ⟨f, hf, hi⟩ := Sound.mem_selected.1 he
  rw [itemsOf_expandedEntry] at hi
  obtain ⟨ts, hts, hentries⟩ := Option.map_eq_some_iff.1 hi
  refine ⟨f, hf, Option.isSome_iff_exists.2 ⟨ts, hts⟩, fun x => ?_⟩
  have hread : (ofTargets c).read e.1 f =
      ((targetValues c id e.2).toOption).map (collect f.definition) := by
    rw [← hentries, targetValues_expanded, Option.map_map]
    change (Bag.itemsOf (·.artifact?) f.value?).bind _ = _
    rw [hts]
    rfl
  rw [hread, dependencyValue, h.definitionOf_eq ht (mem_fieldsOf.1 hf).1, Outcome.ok_bind,
    Outcome.bind_eq_ok, Option.map_eq_some_iff]
  simp only [Outcome.toOption_eq_some]
  constructor
  · rintro ⟨ws, hws, hx⟩
    obtain rfl := Except.ok.inj hx
    exact ⟨rfl, ws, hws, rfl⟩
  · rintro ⟨hx, ws, hws, hw⟩
    exact ⟨ws, hws, by rw [hw, ← hx]; rfl⟩

lemma gives_targets (h : a.Coherent t) (ht : t.Declared) {c : Catalog} {id : String} {ds : Values}
    (hds : dependencyValues c t id (Bag.selected expandedEntry (a.fieldsOf .dependency)) = .ok ds) :
    (ofTargets c).Gives (a.fieldsOf .dependency) ds := by
  rw [dependencyValues_eq_mapM] at hds
  refine gives_of_mapM hds (fun e he => ?_) fun e he hs => mem_keys_selected he ?_
  · obtain ⟨f, hf, hs, hread⟩ := h.dependencyValue_eq ht he
    exact ⟨f, hf, hs, fun x => (hread x).1⟩
  · rw [itemsOf_expandedEntry, Option.isSome_map]
    exact hs

lemma exists_targets (h : a.Coherent t) (ht : t.Declared) {c : Catalog} (id : String)
    (haccepts : ∀ e ∈ a.fieldsOf .dependency, (ofTargets c).Accepts e.1 e.2) :
    ∃ ds, dependencyValues c t id (Bag.selected expandedEntry (a.fieldsOf .dependency)) =
      .ok ds := by
  rw [dependencyValues_eq_mapM]
  refine Outcome.exists_mapM_ok.2 fun e he => ?_
  obtain ⟨f, hf, hs, hread⟩ := h.dependencyValue_eq (c := c) ht he
  obtain ⟨w, hw, _⟩ := haccepts _ hf hs
  exact ⟨(e.1, w), (hread (e.1, w)).2 ⟨rfl, hw⟩⟩

end Coherent

open Reading

section

variable [Predicates Artifact]

/-- An artifact of which every attribute is taken as it is read from the bag, and whose required
properties have leaves or a default. -/
structure Readable (c : Catalog) (a : Artifact) : Prop where
  property : ∀ e ∈ a.fieldsOf .property, ofLeaves.Accepts e.1 e.2
  blob : ∀ e ∈ a.fieldsOf .blob, ofBlobs.Accepts e.1 e.2
  dependency : ∀ e ∈ a.fieldsOf .dependency, (ofTargets c).Accepts e.1 e.2
  complete : ∀ e ∈ a.fieldsOf .property, e.2.definition.required = true →
    ofLeaves.stored e.1 e.2 ∨ e.2.definition.default.isSome = true

omit [Predicates Artifact] in
lemma Reading.Gives.stored_of_key {r : Reading} {a : Artifact} (hs : Dict.Sorted a.fields)
    {role role' : Role} {vs : Values} (h : r.Gives (a.fieldsOf role) vs)
    {e : String × Field Artifact} (he : e ∈ a.fieldsOf role') (hk : e.1 ∈ Dict.keys vs) :
    role = role' ∧ r.stored e.1 e.2 := by
  obtain ⟨x, hx, hxe⟩ := List.mem_map.1 hk
  obtain ⟨f, hf, hstored, _⟩ := h.sound x hx
  rw [hxe] at hf hstored
  obtain ⟨hm, hrole⟩ := mem_fieldsOf.1 hf
  obtain ⟨hm', hrole'⟩ := mem_fieldsOf.1 he
  obtain rfl : f = e.2 := Option.some.inj
    ((Dict.lookup_of_mem hs.nodup hm).symm.trans (Dict.lookup_of_mem hs.nodup hm'))
  exact ⟨hrole.symm.trans hrole', hstored⟩

lemma Coherent.fills_iff {c : Catalog} {t : ArtifactType} (ht : t.Declared) {a : Artifact}
    (h : a.Coherent t) {ps bs ds : Values} (hps : ofLeaves.Gives (a.fieldsOf .property) ps)
    (hbs : ofBlobs.Gives (a.fieldsOf .blob) bs)
    (hds : (ofTargets c).Gives (a.fieldsOf .dependency) ds) :
    Fills t (ps ++ bs ++ ds) ↔ a.Readable c := by
  have hs := h.sorted ht
  have htaken : ∀ {r : Reading} {role : Role} {vs : Values}, r.Gives (a.fieldsOf role) vs →
      ((∀ x ∈ vs, ∃ d, (x.1, d) ∈ t.attributes ∧ d.Takes x.1 x.2) ↔
        ∀ e ∈ a.fieldsOf role, r.Accepts e.1 e.2) := by
    intro r role vs hgives
    have hfields : Dict.Sorted (a.fieldsOf role) := hs.filter _
    exact hgives.taken_iff hfields.nodup ht.attributes.1 fun e he =>
      h.mem_attributes (mem_fieldsOf.1 he).1
  -- Names belong to one role, so what is read for another role leaves a property as it is.
  have hkey : ∀ e ∈ a.fieldsOf .property,
      (e.1 ∈ Dict.keys (ps ++ bs ++ ds) ↔ ofLeaves.stored e.1 e.2) := by
    intro e he
    rw [Dict.keys, List.map_append, List.map_append, List.mem_append, List.mem_append]
    refine ⟨?_, fun hstored => Or.inl (Or.inl (hps.total e he hstored))⟩
    rintro ((hk | hk) | hk)
    · exact (hps.stored_of_key hs he hk).2
    · cases (hbs.stored_of_key hs he hk).1
    · cases (hds.stored_of_key hs he hk).1
  constructor
  · rintro ⟨htakes, hcomplete⟩
    rw [List.forall_mem_append, List.forall_mem_append] at htakes
    refine ⟨(htaken hps).1 htakes.1.1, (htaken hbs).1 htakes.1.2, (htaken hds).1 htakes.2,
      fun e he hr => ?_⟩
    obtain ⟨hm, hrole⟩ := mem_fieldsOf.1 he
    exact (hcomplete _ (h.mem_attributes hm) hrole hr).imp_left (hkey e he).1
  · rintro ⟨hproperty, hblob, hdependency, hcomplete⟩
    refine ⟨?_, fun e he hrole hr => ?_⟩
    · rw [List.forall_mem_append, List.forall_mem_append]
      exact ⟨⟨(htaken hps).2 hproperty, (htaken hbs).2 hblob⟩, (htaken hds).2 hdependency⟩
    · rw [← h.definitions] at he
      obtain ⟨x, hx, rfl⟩ := List.mem_map.1 he
      have hf : x ∈ a.fieldsOf .property := mem_fieldsOf.2 ⟨hx, hrole⟩
      exact (hcomplete x hf hr).imp_left (hkey x hf).2

lemma Coherent.readable_iff {c : Catalog} (hc : c.Registered) {t : ArtifactType} (ht : t ∈ c.types)
    {a : Artifact} (h : a.Coherent t) : (∃ b, ofBag c a.expanded = .ok b) ↔ a.Readable c := by
  have hd := hc.declared t ht
  have hname : c.byName a.expanded.typeName (some a.expanded.typeVersion) = .ok t := by
    rw [expanded_eq]
    change c.byName a.type.name (some a.type.version) = _
    rw [h.type_eq]
    exact hc.byName_eq ht
  rw [ofBag_isOk hd hname, expanded_eq]
  constructor
  · rintro ⟨ps, bs, ds, hps, hbs, hds, hfills⟩
    exact (h.fills_iff hd (h.gives_leaves hd hps) (h.gives_blobs hd hbs)
      (h.gives_targets hd hds)).1 hfills
  · intro hreadable
    obtain ⟨ps, hps⟩ := h.exists_leaves hd hreadable.property
    obtain ⟨bs, hbs⟩ := h.exists_blobs hd
    obtain ⟨ds, hds⟩ := h.exists_targets hd a.id hreadable.dependency
    exact ⟨ps, bs, ds, hps, hbs, hds, (h.fills_iff hd (h.gives_leaves hd hps)
      (h.gives_blobs hd hbs) (h.gives_targets hd hds)).2 hreadable⟩

/-- The artifacts of registered types that are read from their expanded bags are those of which every
attribute is taken as it is read. A property whose leaves can be told apart is read as what is
restored of its value, and blobs are taken as they were. -/
theorem ofBag_expanded_iff [ArtifactPredicates] {c : Catalog} (hc : c.Registered)
    {t : ArtifactType} (ht : t ∈ c.types) {a : Artifact} (ha : a.Written t) :
    ((∃ b, ofBag c a.expanded = .ok b) ↔ a.Readable c) ∧
      ∀ e ∈ a.fields, (∀ p : Definition Artifact, p.Within e.2.definition → p.ShapeKept) →
        (e.2.definition.role = .property → e.2.definition.AllClean e.2.value? false →
          ofLeaves.read e.1 e.2 = (e.2.value?.map e.2.definition.restore?).getD (some none)) ∧
        (e.2.definition.role = .blob → ofBlobs.Accepts e.1 e.2) := by
  have hd := hc.declared t ht
  have h := ha.coherent hd
  refine ⟨h.readable_iff hc ht, fun e he hshape => ⟨fun hrole hclean => ?_, fun hrole => ?_⟩⟩
  · have hconforms := fun v hv => h.conforms hd he hshape (v := v) hv
    have hjson := Definition.readBack_remnant (h.admitted hd he).built (h.dotless hd he) hconforms
      (fun v hv => (h.legal e he).ordered hv) hclean
    rw [ofLeaves_read, share, hjson]
    cases hv : e.2.value? with
    | none => exact congrArg _ (Definition.fromJsonAs_null _ _)
    | some v => exact Definition.fromJsonAs_remnant (hconforms v hv) e.1
  · intro hstored
    have hitems : (Bag.itemsOf (·.blob?) e.2.value?).isSome = true := hstored
    cases hv : e.2.value? with
    | none =>
      rw [hv] at hitems
      cases hitems
    | some v =>
      have hconforms := h.conforms hd he hshape hv
      obtain ⟨bs, hbs, hcollect⟩ := blobs_of_conforms hrole hconforms
      refine ⟨some v, Option.map_eq_some_iff.2 ⟨bs, hv ▸ hbs, hcollect⟩, ?_⟩
      rw [Definition.Takes, Option.map_some, hconforms.normalize]
      exact (h.legal e he v hv).1

end

namespace Sample

open Definition

attribute [local instance] Predicates.parityAndSize ArtifactPredicates.owned

def survey : Descriptor where
  name := "Survey"
  version := "1.0.0"
  attributes := [("levels", .dict (.scalar .numeric))]

def report : Descriptor where
  name := "Report"
  version := "1.0.0"
  attributes := [("parts", .composite [("a", .scalar .integer), ("a.b", .scalar .integer)])]

def surveyType : ArtifactType :=
  survey.declare.toOption.get rfl

def reportType : ArtifactType :=
  report.declare.toOption.get rfl

def reports : Catalog :=
  ⟨[reportType, surveyType]⟩

lemma registered_reports : reports.Registered := by
  have hsurvey : surveyType.Declared := by
    refine .declare (by simp [survey]) (fun e he => ?_)
      (show survey.declare = .ok surveyType from rfl)
    obtain rfl := List.mem_singleton.1 he
    exact .dict (.scalar _)
  have hreport : reportType.Declared := by
    refine .declare (by simp [report]) (fun e he => ?_)
      (show report.declare = .ok reportType from rfl)
    obtain rfl := List.mem_singleton.1 he
    refine .composite fun e he => ?_
    rcases List.mem_cons.1 he with rfl | he
    · exact .scalar _
    · obtain rfl := List.mem_singleton.1 he
      exact .scalar _
  exact .register (.register .empty hsurvey rfl) hreport rfl

def levels : Definition Artifact :=
  (surveyType.attributes.lookup "levels").get rfl

def parts : Definition Artifact :=
  (reportType.attributes.lookup "parts").get rfl

def unmeasured : Artifact :=
  (create surveyType "s" "survey" "1.0.0" start).toOption.get rfl

def unfilled : Artifact :=
  (create reportType "r" "report" "1.0.0" start).toOption.get rfl

def gaps : Value Artifact :=
  .dict [("dusk", .numeric (.finite false 7 0)), ("noon", .numeric .nan)]

def part : Value Artifact :=
  .dict [("a.b", .integer 1)]

def measured : Artifact :=
  (unmeasured.set "levels" (some gaps)).toOption.get rfl

def filled : Artifact :=
  (unfilled.set "parts" (some part)).toOption.get rfl

lemma fields_measured : measured.fields = [("levels", ⟨levels, some gaps, false⟩)] := rfl

lemma properties_filled : filled.fieldsOf .property = [("parts", ⟨parts, some part, false⟩)] := rfl

lemma ordered_flat {es : List (String × Value Artifact)} (hs : Dict.Sorted es)
    (h : ∀ e ∈ es, e.2.children = [] ∧ ∀ fs, e.2 ≠ .dict fs) : (Value.dict es).Ordered :=
  ordered_dict hs fun e he => ordered_atom (h e he).1 (h e he).2

lemma written_measured : measured.Written surveyType := by
  have hu : unmeasured.Written surveyType :=
    .create (show create surveyType "s" "survey" "1.0.0" start = .ok unmeasured from rfl)
  refine .set hu (fun w hw => ?_) (show unmeasured.set "levels" (some gaps) = .ok measured from rfl)
  obtain rfl := Option.some.inj hw
  have hkeys : "dusk" < "noon" := by decide
  refine ordered_flat (List.pairwise_pair.2 hkeys) fun e he => ?_
  simp only [List.mem_cons, List.not_mem_nil, or_false] at he
  rcases he with rfl | rfl <;> exact ⟨rfl, nofun⟩

lemma written_filled : filled.Written reportType := by
  have hu : unfilled.Written reportType :=
    .create (show create reportType "r" "report" "1.0.0" start = .ok unfilled from rfl)
  refine .set hu (fun w hw => ?_) (show unfilled.set "parts" (some part) = .ok filled from rfl)
  obtain rfl := Option.some.inj hw
  refine ordered_flat (List.pairwise_singleton _ _) fun e he => ?_
  obtain rfl := List.mem_singleton.1 he
  exact ⟨rfl, nofun⟩

lemma shapeKept_levels : ∀ p : Definition Artifact, p.Within levels → p.ShapeKept := by
  refine forall_within (shapeKept_ofKind (.dict (.scalar .numeric))) fun q hq => ?_
  obtain rfl := List.mem_singleton.1 hq
  exact forall_within (shapeKept_ofKind (.scalar .numeric)) nofun

lemma allClean_gaps : levels.AllClean (some gaps) false := by
  have hp : pathLeaves levels (some gaps) false =
      [(["dusk"], ⟨.numeric, .float (.finite false 7 0)⟩), (["noon"], ⟨.numeric, .null⟩)] := rfl
  have hkeeps : ∀ key, levels.KeepsKey key := by
    intro key h
    cases h
  rw [AllClean, hp, List.forall_mem_cons, List.forall_mem_singleton]
  exact ⟨⟨hkeeps _, fun _ _ => trivial⟩, hkeeps _, fun _ _ => trivial⟩

theorem ofBag_expanded_measured : reports.Registered ∧ surveyType ∈ reports.types ∧
    measured.Written surveyType ∧
    ofLeaves.read "levels" ⟨levels, some gaps, false⟩ =
      some (some (.dict [("dusk", .numeric (.finite false 7 0))])) ∧
    ∃ b, ofBag reports measured.expanded = .ok b := by
  have hm : surveyType ∈ reports.types := by simp [reports]
  obtain ⟨hiff, hfields⟩ := ofBag_expanded_iff registered_reports hm written_measured
  rw [fields_measured, List.forall_mem_singleton] at hfields
  have hread := (hfields shapeKept_levels).1 rfl allClean_gaps
  refine ⟨registered_reports, hm, written_measured, hread, hiff.2 ⟨?_, nofun, nofun, ?_⟩⟩
  · rw [show measured.fieldsOf .property = measured.fields from rfl, fields_measured,
      List.forall_mem_singleton]
    exact fun _ => ⟨_, hread, rfl⟩
  · rw [show measured.fieldsOf .property = measured.fields from rfl, fields_measured,
      List.forall_mem_singleton]
    exact nofun

lemma readBack_part : parts.readBack "parts" (share "parts" ⟨parts, some part, false⟩) =
    .obj [("a", .obj [("b", .int 1)])] := by
  have hshare : share "parts" ⟨parts, some part, false⟩ =
      [("parts.a", .null .int), ("parts.a.b", ⟨.int, .int 1⟩)] := rfl
  have hleaves : Leaves.ofProperties [("parts.a", .null .int), ("parts.a.b", ⟨.int, .int 1⟩)] =
      [("parts", ⟨none, [("a", .null .int), ("a.b", ⟨.int, .int 1⟩)]⟩)] := rfl
  rw [readBack, hshare, hleaves]
  rfl

lemma refused_part : ¬ ofLeaves.Accepts "parts" ⟨parts, some part, false⟩ := by
  intro h
  have hleaves : parts.leaves "parts" (some part) false =
      [("parts.a", .null .int), ("parts.a.b", ⟨.int, .int 1⟩)] := rfl
  have hstored : ofLeaves.stored "parts" ⟨parts, some part, false⟩ := by
    change parts.leaves "parts" (some part) false ≠ []
    rw [hleaves]
    exact List.cons_ne_nil _ _
  obtain ⟨w, hw, _⟩ := h hstored
  rw [ofLeaves_read, readBack_part] at hw
  cases hw

/-- A report with all that is required, which is accepted and cannot be read again. -/
theorem unreadable_filled : reports.Registered ∧ reportType ∈ reports.types ∧
    unfilled.set "parts" (some part) = .ok filled ∧ filled.Written reportType ∧
    (∀ e ∈ filled.fields, e.2.definition.required = true → e.2.value?.isSome = true) ∧
    ¬ ∃ b, ofBag reports filled.expanded = .ok b := by
  have hm : reportType ∈ reports.types := by simp [reports]
  have hcoherent := written_filled.coherent (registered_reports.declared reportType hm)
  refine ⟨registered_reports, hm, rfl, written_filled, fun e he hr => ?_, fun h => ?_⟩
  · obtain rfl := List.mem_singleton.1 he
    cases hr
  · have hreadable := (hcoherent.readable_iff registered_reports hm).1 h
    exact refused_part (hreadable.property ("parts", ⟨parts, some part, false⟩)
      (properties_filled ▸ List.mem_singleton_self _))

end Sample

end Artifact

end TypedArtifacts
