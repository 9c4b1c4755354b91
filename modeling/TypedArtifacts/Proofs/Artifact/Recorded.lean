import TypedArtifacts.Proofs.Artifact.Frozen
import TypedArtifacts.Proofs.Artifact.Readable

/-! Which attributes of an artifact that was read from a bag are assigned: those that the bag gives a
value for. -/

namespace TypedArtifacts

namespace Artifact

open Reading

namespace Reading

def ofReferences : Reading where
  stored _ f := (Bag.itemsOf (·.artifact?) f.value?).isSome = true
  read _ f := (Bag.itemsOf (·.artifact?) f.value?).map fun ts =>
    collect f.definition (ts.map .artifact)

def ofRole : Role → Reading
  | .property => ofLeaves
  | .blob => ofBlobs
  | .dependency => ofReferences

def whole : Reading where
  stored name f := (ofRole f.definition.role).stored name f
  read name f := (ofRole f.definition.role).read name f

end Reading

end Artifact

def Field.Recorded (name : String) (f : Field Artifact) : Prop :=
  Artifact.Reading.whole.stored name f ∧ ∃ v, Artifact.Reading.whole.read name f = some (some v)

namespace Artifact

open Reading

structure Reading.Marks (r : Reading) (fields : List (String × Field Artifact)) (vs : Values) :
    Prop where
  sound : ∀ x ∈ vs, ∃ f, (x.1, f) ∈ fields ∧ r.stored x.1 f ∧
    ∃ w, r.read x.1 f = some w ∧ w.isSome = x.2.isSome
  total : ∀ e ∈ fields, r.stored e.1 e.2 → e.1 ∈ Dict.keys vs

namespace Reading

variable {r : Reading} {fields : List (String × Field Artifact)} {vs : Values}

lemma Gives.marks (h : r.Gives fields vs) : r.Marks fields vs where
  sound x hx := by
    obtain ⟨f, hf, hs, hread⟩ := h.sound x hx
    exact ⟨f, hf, hs, x.2, hread, rfl⟩
  total := h.total

lemma Marks.exists_some_iff (h : r.Marks fields vs) (hn : (Dict.keys fields).Nodup) {name : String}
    {f : Field Artifact} (hf : (name, f) ∈ fields) :
    (∃ v, (name, some v) ∈ vs) ↔ r.stored name f ∧ ∃ v, r.read name f = some (some v) := by
  have hsound : ∀ x ∈ vs, x.1 = name → r.stored name f ∧
      ∃ w, r.read name f = some w ∧ w.isSome = x.2.isSome := by
    rintro x hx rfl
    obtain ⟨g, hg, hs, hread⟩ := h.sound x hx
    obtain rfl : g = f :=
      Option.some.inj ((Dict.lookup_of_mem hn hg).symm.trans (Dict.lookup_of_mem hn hf))
    exact ⟨hs, hread⟩
  constructor
  · rintro ⟨v, hv⟩
    obtain ⟨hs, w, hw, hsome⟩ := hsound _ hv rfl
    obtain ⟨u, rfl⟩ := Option.isSome_iff_exists.1 hsome
    exact ⟨hs, u, hw⟩
  · rintro ⟨hs, v, hv⟩
    obtain ⟨⟨n, x⟩, hx, rfl⟩ := List.mem_map.1 (h.total _ hf hs)
    obtain ⟨_, w, hw, hsome⟩ := hsound _ hx rfl
    obtain rfl := Option.some.inj (hv.symm.trans hw)
    obtain ⟨u, rfl⟩ := Option.isSome_iff_exists.1 hsome.symm
    exact ⟨u, hx⟩

lemma marks_whole {a : Artifact} {ps bs ds : Values} (hps : ofLeaves.Marks (a.fieldsOf .property) ps)
    (hbs : ofBlobs.Marks (a.fieldsOf .blob) bs)
    (hds : ofReferences.Marks (a.fieldsOf .dependency) ds) :
    whole.Marks a.fields (ps ++ bs ++ ds) where
  sound x hx := by
    have hrole : ∀ (role : Role) {vs : Values}, (ofRole role).Marks (a.fieldsOf role) vs →
        x ∈ vs → ∃ f, (x.1, f) ∈ a.fields ∧ whole.stored x.1 f ∧
          ∃ w, whole.read x.1 f = some w ∧ w.isSome = x.2.isSome := by
      intro role vs hvs hx
      obtain ⟨f, hf, hs, hread⟩ := hvs.sound x hx
      obtain ⟨hm, rfl⟩ := mem_fieldsOf.1 hf
      exact ⟨f, hm, hs, hread⟩
    rcases List.mem_append.1 hx with hx | hx
    · rcases List.mem_append.1 hx with hx | hx
      · exact hrole .property hps hx
      · exact hrole .blob hbs hx
    · exact hrole .dependency hds hx
  total e he hs := by
    rw [Dict.keys, List.map_append, List.map_append, List.mem_append, List.mem_append]
    change (ofRole e.2.definition.role).stored e.1 e.2 at hs
    cases hr : e.2.definition.role with
    | property =>
      rw [hr] at hs
      exact Or.inl (Or.inl (hps.total e (mem_fieldsOf.2 ⟨he, hr⟩) hs))
    | blob =>
      rw [hr] at hs
      exact Or.inl (Or.inr (hbs.total e (mem_fieldsOf.2 ⟨he, hr⟩) hs))
    | dependency =>
      rw [hr] at hs
      exact Or.inr (hds.total e (mem_fieldsOf.2 ⟨he, hr⟩) hs)

end Reading

section

variable [Predicates Artifact]

lemma storeAll_assigned {b c : Artifact} {vs : Values} (h : b.storeAll vs = .ok c) {name : String}
    {f : Field Artifact} (hf : b.fields.lookup name = some f) :
    ∃ g, c.fields.lookup name = some g ∧ (g.assigned = true ↔
      f.assigned = true ∨ f.definition.readonly = true ∧ ∃ v, (name, some v) ∈ vs) := by
  induction vs generalizing b f with
  | nil =>
    obtain rfl := Except.ok.inj h
    exact ⟨f, hf, by simp⟩
  | cons e vs ih =>
    obtain ⟨k, hk, _, h⟩ := storeAll_cons.1 h
    -- A mark is never taken back, so it is enough that one of the values sets it.
    by_cases hn : name = e.1
    · subst hn
      obtain rfl : k = f := Option.some.inj (hk.symm.trans hf)
      obtain ⟨g, hg, hassigned⟩ := ih h (lookup_withField hk _)
      refine ⟨g, hg, hassigned.trans ?_⟩
      obtain ⟨n, v⟩ := e
      cases v with
      | none => simp [Field.commit]
      | some v =>
        have hgiven : ∃ u, (n, some u) ∈ (n, some v) :: vs := ⟨v, List.mem_cons_self⟩
        simp only [Field.commit, Option.map_some, Option.isSome_some, Bool.and_true,
          Bool.or_eq_true, hgiven, and_true]
        tauto
    · obtain ⟨g, hg, hassigned⟩ := ih h ((lookup_withField_of_ne hn _).trans hf)
      refine ⟨g, hg, hassigned.trans ?_⟩
      have hne : ∀ v, (name, some v) ≠ e := fun v he => hn (congrArg Prod.fst he)
      simp [hne]

omit [Predicates Artifact] in
lemma collect_isSome (d : Definition Artifact) {vs ws : List (Value Artifact)}
    (h : vs.length = ws.length) : (collect d vs).isSome = (collect d ws).isSome := by
  unfold collect
  split
  · rfl
  · cases vs <;> cases ws <;> simp_all

def StandIn (a : Artifact) (deps : List (String × List (DependencyEntry Bag))) : Prop :=
  List.Forall₂ (fun p q => q.1 = p.1 ∧ q.2.length = p.2.length) (Bag.ofArtifact a).dependencies deps

namespace Coherent

variable {t : ArtifactType} {a : Artifact} {c : Catalog}
  {deps : List (String × List (DependencyEntry Bag))}

omit [Predicates Artifact] in
lemma itemsOf_targetEntry (v : Option (Value Artifact)) : Bag.itemsOf Reread.targetEntry v =
    (Bag.itemsOf (·.artifact?) v).map (·.map fun x => .id x.id) :=
  (itemsOf_map (·.artifact?) (fun x => DependencyEntry.id x.id) v).symm

lemma marks_references (h : a.Coherent t) (ht : t.Declared) (hdeps : a.StandIn deps) {id : String}
    {ds : Values} (hds : dependencyValues c t id deps = .ok ds) :
    ofReferences.Marks (a.fieldsOf .dependency) ds where
  sound x hx := by
    obtain ⟨q, hq, d, xs, hd, hread, rfl⟩ := Outcome.exists_left (dependencyValues_eq_ok hds) hx
    obtain ⟨p, hp, hpq, hlength⟩ := Outcome.exists_left hdeps hq
    obtain ⟨f, hf, hitems⟩ := Sound.mem_selected.1 hp
    change Bag.itemsOf Reread.targetEntry f.value? = _ at hitems
    rw [itemsOf_targetEntry] at hitems
    obtain ⟨ts, hts, hentries⟩ := Option.map_eq_some_iff.1 hitems
    rw [← hpq] at hf
    rw [h.definitionOf_eq ht (mem_fieldsOf.1 hf).1] at hd
    obtain rfl := Except.ok.inj hd
    refine ⟨f, hf, Option.isSome_iff_exists.2 ⟨ts, hts⟩, _, Option.map_eq_some_iff.2 ⟨ts, hts, rfl⟩,
      collect_isSome _ ?_⟩
    rw [List.length_map, List.length_map, ← hread.length_eq, hlength, ← hentries, List.length_map]
  total e he hs := by
    have hkeys : Dict.keys deps = Dict.keys (Bag.ofArtifact a).dependencies := by
      have hnames := List.forall₂_map_left_iff.2 (List.forall₂_map_right_iff.2
        (hdeps.imp fun p q hpq => (hpq.1.symm : p.1 = q.1)))
      rw [List.forall₂_eq_eq_eq] at hnames
      exact hnames.symm
    rw [keys_dependencyValues hds, hkeys]
    refine mem_keys_selected he ?_
    change (Bag.itemsOf Reread.targetEntry e.2.value?).isSome = true
    rw [itemsOf_targetEntry, Option.isSome_map]
    exact hs

theorem assigned_ofBag (h : a.Coherent t) (hc : c.Registered) (ht : t ∈ c.types)
    (hdeps : a.StandIn deps) {r : Artifact}
    (hr : ofBag c { Bag.ofArtifact a with dependencies := deps } = .ok r) :
    r.toHeader = a.toHeader ∧ r.type = a.type ∧ r.definitions = a.definitions ∧
      ∀ name f, a.field? name = some f → ∃ g, r.field? name = some g ∧
        g.definition = f.definition ∧
          (g.assigned = true ↔ f.definition.readonly = true ∧ f.Recorded name) := by
  have hd := hc.declared t ht
  obtain ⟨t', ps, bs, ds, b, hbyName, hps, hbs, hds, hb, rfl⟩ := ofBag_eq_ok hr
  have htype : c.byName a.type.name (some a.type.version) = .ok t := by
    rw [h.type_eq]
    exact hc.byName_eq ht
  obtain rfl : t = t' := Except.ok.inj (htype.symm.trans hbyName)
  have hnew := (coherent_blank hd a.id a.createdAt).seedDefaults
  have hattributes : ((blank t a.id a.createdAt).seedDefaults).definitions = t.attributes :=
    hnew.definitions
  have hsorted : Dict.Sorted ((blank t a.id a.createdAt).seedDefaults).definitions :=
    hattributes ▸ hd.attributes.1
  obtain ⟨hbt, hbd, _⟩ := storeAll_peek hsorted hb
  have hdefinitions : b.definitions = a.definitions :=
    (hbd.trans hattributes).trans h.definitions.symm
  refine ⟨rfl, (hbt.trans hnew.type_eq).trans h.type_eq.symm, hdefinitions, fun name f hf => ?_⟩
  have hmarks := marks_whole (h.gives_leaves hd hps).marks (h.gives_blobs hd hbs).marks
    (h.marks_references hd hdeps hds)
  have hm : (name, f) ∈ a.fields := Dict.mem_of_lookup hf
  have hblank : ((blank t a.id a.createdAt).seedDefaults).fields.lookup name =
      some (Field.blank f.definition).materialize := by
    rw [lookup_seedDefaults, lookup_blank, Dict.lookup_of_mem hd.attributes.1.nodup (h.mem_attributes hm)]
    rfl
  obtain ⟨g, hg, hassigned⟩ := storeAll_assigned hb hblank
  obtain ⟨g', hg', hgd⟩ := exists_field hdefinitions hf
  obtain rfl : g = g' := Option.some.inj (hg.symm.trans hg')
  refine ⟨g, hg, hgd, hassigned.trans ?_⟩
  rw [hmarks.exists_some_iff (h.sorted hd).nodup hm]
  exact or_iff_right nofun

end Coherent

namespace Sound

variable {t : ArtifactType} {a : Artifact}

theorem recorded_iff (h : a.Sound t) {name : String} {f : Field Artifact}
    (hf : a.field? name = some f) : f.Recorded name ↔ f.value?.isSome = true := by
  have hm : (name, f) ∈ a.fields := Dict.mem_of_lookup hf
  have hread : ∀ {role : Role}, f.definition.role = role →
      (∀ v, f.value? = some v → (ofRole role).stored name f ∧
        (ofRole role).read name f = some (some v)) →
      (f.value? = none → (ofRole role).stored name f → (ofRole role).read name f = some none) →
      (f.Recorded name ↔ f.value?.isSome = true) := by
    rintro _ rfl hset hunset
    constructor
    · rintro ⟨hs, v, hv⟩
      rw [Option.isSome_iff_ne_none]
      intro hnone
      exact nomatch hv.symm.trans (hunset hnone hs)
    · intro hsome
      obtain ⟨v, hv⟩ := Option.isSome_iff_exists.1 hsome
      exact ⟨(hset v hv).1, v, (hset v hv).2⟩
  cases hr : f.definition.role with
  | property =>
    have he : (name, f) ∈ a.fieldsOf .property := mem_fieldsOf.2 ⟨hm, hr⟩
    have hstored : ofLeaves.stored name f → ofLeaves.read name f = some f.value? := by
      intro hs
      have hk := (h.coherent.mem_keys_properties h.declared he).2 hs
      obtain ⟨⟨n, l⟩, hl, rfl⟩ := List.mem_map.1 hk
      rw [((h.coherent.propertyValue_eq h.declared hl he).1 (h.propertyValue_eq hl)).2,
        h.peek_eq hm]
    refine hread hr (fun v hv => ?_) fun hnone hs => hnone ▸ hstored hs
    have hs : ofLeaves.stored name f := by
      by_contra hs
      have hnone := h.unset_of_absent he
        (mt (h.coherent.mem_keys_properties h.declared he).1 hs)
      exact nomatch hv.symm.trans hnone
    exact ⟨hs, hv ▸ hstored hs⟩
  | blob =>
    have he : (name, f) ∈ a.fieldsOf .blob := mem_fieldsOf.2 ⟨hm, hr⟩
    refine hread hr (fun v hv => ?_) fun hnone hs => ?_
    · obtain ⟨bs, hbs, hcollect⟩ := h.blobs_of_field he hv
      refine ⟨Option.isSome_iff_exists.2 ⟨bs, hbs⟩, Option.map_eq_some_iff.2 ⟨bs, hbs, ?_⟩⟩
      exact hcollect.trans hv
    · change (Bag.itemsOf (·.blob?) f.value?).isSome = true at hs
      rw [hnone] at hs
      cases hs
  | dependency =>
    refine hread hr (fun v hv => ?_) fun hnone hs => ?_
    · obtain ⟨ts, hw⟩ := Definition.wraps_targets hr (h.conforms hm hv)
      have hts := hw.itemsOf_eq (fun _ _ hl => nomatch hl) (·.artifact?) id fun _ => rfl
      rw [List.map_id, ← hv] at hts
      refine ⟨Option.isSome_iff_exists.2 ⟨ts, hts⟩, Option.map_eq_some_iff.2 ⟨ts, hts, ?_⟩⟩
      exact hw.collect_eq
    · change (Bag.itemsOf (·.artifact?) f.value?).isSome = true at hs
      rw [hnone] at hs
      cases hs

end Sound

end

end Artifact

end TypedArtifacts
