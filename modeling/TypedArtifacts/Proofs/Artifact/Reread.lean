import TypedArtifacts.Proofs.Artifact.RoundTrip

/-! The bag of an artifact that was read from a bag. -/

namespace TypedArtifacts.Artifact

section

variable {d : Definition Artifact} {v : Value Artifact}

lemma artifact?_plain (hd : d.Plain) (h : d.Conforms v) : v.artifact? = none := by
  cases h with
  | @scalar t s v hs =>
    cases v with
    | artifact a => cases s <;> cases hs.1
    | _ => rfl
  | relation a => cases (hd _ .self).1
  | _ => rfl

lemma targets_plain (hd : d.Plain) (h : d.Conforms v) : targets (some v) = [] := by
  cases v with
  | artifact a => cases artifact?_plain hd h
  | list vs =>
    refine List.filterMap_eq_nil_iff.2 fun w hw => ?_
    cases h with
    | @scalar _ s _ hs => cases s <;> cases hs.1
    | @list _ item _ hall =>
      have hitem : item.Plain := hd.part (List.mem_singleton_self _)
      exact artifact?_plain hitem (hall w hw)
    | @tuple _ items _ hl hall =>
      rw [← List.map_snd_zip hl] at hw
      obtain ⟨e, he, rfl⟩ := List.mem_map.1 hw
      have hitem : e.1.Plain := hd.part (List.of_mem_zip he).1
      exact artifact?_plain hitem (hall e he)
  | _ => rfl

end

section

variable {a b : Artifact}

lemma fieldsOf_shown (hs : Dict.Sorted a.definitions) (role : Role) :
    ((a.fieldsOf role).map fun e => (e.1, e.2.definition, e.2.value?)) =
      (a.definitions.filter fun e => e.2.role = role).map fun e => (e.1, e.2, a.peek e.1) := by
  rw [definitions, List.filter_map, List.map_map]
  apply List.map_congr_left
  intro e he
  have hl : a.fields.lookup e.1 = some e.2 :=
    Dict.lookup_of_mem (sorted_fields hs).nodup (mem_fieldsOf.1 he).1
  have hpeek : a.peek e.1 = e.2.value? := by
    rw [peek, field?, hl]
    rfl
  simp only [Function.comp, hpeek]

def AgreeOn (role : Role) (b a : Artifact) : Prop :=
  ∀ e ∈ a.definitions, e.2.role = role → b.peek e.1 = a.peek e.1

lemma fieldsOf_agree (hs : Dict.Sorted a.definitions) (hd : b.definitions = a.definitions)
    {role : Role} (h : AgreeOn role b a) :
    ((b.fieldsOf role).map fun e => (e.1, e.2.definition, e.2.value?)) =
      (a.fieldsOf role).map fun e => (e.1, e.2.definition, e.2.value?) := by
  rw [fieldsOf_shown hs, fieldsOf_shown (hd ▸ hs), hd]
  apply List.map_congr_left
  intro e he
  obtain ⟨hm, hr⟩ := List.mem_filter.1 he
  rw [h e hm (by simpa using hr)]

lemma propertiesOf_agree (hs : Dict.Sorted a.definitions) (hd : b.definitions = a.definitions)
    (h : AgreeOn .property b a) : Bag.propertiesOf b = Bag.propertiesOf a := by
  have hleaves : ∀ x : Artifact,
      ((x.fieldsOf .property).flatMap fun e => e.2.definition.leaves e.1 e.2.value? false) =
        ((x.fieldsOf .property).map fun e => (e.1, e.2.definition, e.2.value?)).flatMap
          fun p => p.2.1.leaves p.1 p.2.2 false := fun x => by rw [List.flatMap_map]
  rw [Bag.propertiesOf, Bag.propertiesOf, hleaves, hleaves, fieldsOf_agree hs hd h]

lemma selected_eq {α : Type} (select : Value Artifact → Option α) (hs : Dict.Sorted a.definitions)
    (role : Role) : Bag.selected select (a.fieldsOf role) =
      (a.definitions.filter fun e => e.2.role = role).filterMap fun e =>
        (Bag.itemsOf select (a.peek e.1)).map fun items => (e.1, items) := by
  have hmap := congrArg (List.filterMap fun p : String × Definition Artifact × Option _ =>
    (Bag.itemsOf select p.2.2).map fun items => (p.1, items)) (fieldsOf_shown hs role)
  rw [List.filterMap_map, List.filterMap_map] at hmap
  exact hmap

lemma selected_agree {α : Type} (select : Value Artifact → Option α)
    (hs : Dict.Sorted a.definitions) (hd : b.definitions = a.definitions) {role : Role}
    (h : ∀ e ∈ a.definitions, e.2.role = role →
      Bag.itemsOf select (b.peek e.1) = Bag.itemsOf select (a.peek e.1)) :
    Bag.selected select (b.fieldsOf role) = Bag.selected select (a.fieldsOf role) := by
  rw [selected_eq select hs, selected_eq select (hd ▸ hs), hd]
  apply List.filterMap_congr
  intro e he
  obtain ⟨hm, hr⟩ := List.mem_filter.1 he
  rw [h e hm (by simpa using hr)]

end

section

variable [Predicates Artifact]

omit [Predicates Artifact] in
lemma peek_withField {b : Artifact} {name : String} {f g : Field Artifact}
    (hf : b.fields.lookup name = some f) (x : String) :
    (b.withField name g).peek x = if x = name then g.value? else b.peek x := by
  have hl : (b.withField name g).fields.lookup x =
      if x = name then (b.fields.lookup x).map fun _ => g else b.fields.lookup x :=
    Dict.lookup_adjust name (fun _ => g) b.fields x
  simp only [peek, field?, hl]
  by_cases hx : x = name
  · subst hx
    simp [hf]
  · simp [hx]

lemma storeAll_cons {b c : Artifact} {e : String × Option (Value Artifact)} {vs : Values} :
    b.storeAll (e :: vs) = .ok c ↔ ∃ f, b.fields.lookup e.1 = some f ∧
      f.definition.validateAs e.1 (e.2.map f.definition.normalize) = .ok () ∧
      (b.withField e.1 (f.commit (e.2.map f.definition.normalize))).storeAll vs = .ok c := by
  rw [storeAll, Outcome.bind_eq_ok]
  constructor
  · rintro ⟨f, hf, h⟩
    obtain ⟨g, hg, h⟩ := Outcome.bind_eq_ok.1 h
    obtain ⟨hvalid, rfl⟩ := Field.store_ok hg
    exact ⟨f, findField_ok hf, hvalid, h⟩
  · rintro ⟨f, hf, hvalid, h⟩
    refine ⟨f, findField_of_lookup hf, Outcome.bind_eq_ok.2 ⟨_, ?_, h⟩⟩
    exact Outcome.bind_eq_ok.2 ⟨(), hvalid, rfl⟩

lemma storeAll_append {a b : Artifact} {vs ws : Values} (h : a.storeAll (vs ++ ws) = .ok b) :
    ∃ x, a.storeAll vs = .ok x ∧ x.storeAll ws = .ok b := by
  induction vs generalizing a with
  | nil => exact ⟨a, rfl, h⟩
  | cons e vs ih =>
    obtain ⟨f, hf, hvalid, h⟩ := storeAll_cons.1 h
    obtain ⟨x, hx, hb⟩ := ih h
    exact ⟨x, storeAll_cons.2 ⟨f, hf, hvalid, hx⟩, hb⟩

lemma storeAll_peek {b c : Artifact} {vs : Values} (hs : Dict.Sorted b.definitions)
    (h : b.storeAll vs = .ok c) : c.type = b.type ∧ c.definitions = b.definitions ∧
      (∀ name, name ∉ Dict.keys vs → c.peek name = b.peek name) ∧
      ∀ name d w, (name, d) ∈ b.definitions → name ∈ Dict.keys vs →
        (∀ v, (name, v) ∈ vs → v = w) → c.peek name = (w.map d.normalize).or d.default := by
  induction vs generalizing b with
  | nil =>
    obtain rfl := Except.ok.inj h
    exact ⟨rfl, rfl, fun _ _ => rfl, fun _ _ _ _ hk => by cases hk⟩
  | cons e vs ih =>
    obtain ⟨f, hl, _, h⟩ := storeAll_cons.1 h
    generalize hgv : f.commit (e.2.map f.definition.normalize) = g at h
    have hgd : g.definition = f.definition := by rw [← hgv]; rfl
    have hkept : (b.withField e.1 g).definitions = b.definitions :=
      definitions_withField (sorted_fields hs) hl hgd
    obtain ⟨ht, hd, hrest, hgiven⟩ := ih (hkept ▸ hs) h
    refine ⟨ht, hd.trans hkept, fun name hk => ?_, fun name d w hm hk hw => ?_⟩
    · obtain ⟨hne, hk⟩ := not_or.1 (mt List.mem_cons.2 hk)
      rw [hrest name hk, peek_withField hl, if_neg hne]
    · by_cases hv : name ∈ Dict.keys vs
      · exact hgiven name d w (hkept ▸ hm) hv fun v hv => hw v (List.mem_cons_of_mem _ hv)
      · obtain rfl : name = e.1 := (List.mem_cons.1 hk).resolve_right hv
        have hdef : f.definition = d := by
          have hlook := Dict.lookup_of_mem hs.nodup hm
          rw [lookup_definitions, hl] at hlook
          exact Option.some.inj hlook
        rw [hrest _ hv, peek_withField hl, if_pos rfl, ← hgv, ← hw e.2 List.mem_cons_self, ← hdef]
        rfl

def TargetsRead (c : Catalog) (entries : List (DependencyEntry Bag)) (xs : List Artifact) : Prop :=
  List.Forall₂ (fun e x => ∃ y, e = .expanded y ∧ ofBag c y = .ok x) entries xs

lemma targetValues_eq_ok {c : Catalog} {id : String} {entries : List (DependencyEntry Bag)}
    {vs : List (Value Artifact)} (h : targetValues c id entries = .ok vs) :
    ∃ xs, vs = xs.map .artifact ∧ TargetsRead c entries xs := by
  induction entries generalizing vs with
  | nil =>
    obtain rfl := Except.ok.inj h
    exact ⟨[], rfl, .nil⟩
  | cons e entries ih =>
    cases e with
    | id target => cases h
    | expanded y =>
      rw [targetValues] at h
      obtain ⟨x, hx, h⟩ := Outcome.bind_eq_ok.1 h
      obtain ⟨ws, hws, h⟩ := Outcome.bind_eq_ok.1 h
      obtain rfl := Except.ok.inj h
      obtain ⟨xs, rfl, hxs⟩ := ih hws
      exact ⟨x :: xs, rfl, .cons ⟨y, rfl, hx⟩ hxs⟩

lemma dependencyValues_eq_ok {c : Catalog} {t : ArtifactType} {id : String}
    {dependencies : List (String × List (DependencyEntry Bag))} {vs : Values}
    (h : dependencyValues c t id dependencies = .ok vs) :
    List.Forall₂ (fun p q => ∃ d xs, definitionOf t p.1 = .ok d ∧ TargetsRead c p.2 xs ∧
      q = (p.1, collect d (xs.map .artifact))) dependencies vs := by
  induction dependencies generalizing vs with
  | nil =>
    obtain rfl := Except.ok.inj h
    exact .nil
  | cons p dependencies ih =>
    rw [dependencyValues] at h
    obtain ⟨d, hd, h⟩ := Outcome.bind_eq_ok.1 h
    obtain ⟨us, hus, h⟩ := Outcome.bind_eq_ok.1 h
    obtain ⟨ws, hws, h⟩ := Outcome.bind_eq_ok.1 h
    obtain rfl := Except.ok.inj h
    obtain ⟨xs, rfl, hxs⟩ := targetValues_eq_ok hus
    exact .cons ⟨d, xs, hd, hxs, rfl⟩ (ih hws)

lemma keys_dependencyValues {c : Catalog} {t : ArtifactType} {id : String}
    {dependencies : List (String × List (DependencyEntry Bag))} {vs : Values}
    (h : dependencyValues c t id dependencies = .ok vs) :
    Dict.keys vs = Dict.keys dependencies := by
  have hnames := (dependencyValues_eq_ok h).imp fun p q hq => (show p.1 = q.1 by
    obtain ⟨_, _, _, _, rfl⟩ := hq
    rfl)
  have hmap := List.forall₂_map_left_iff.2 (List.forall₂_map_right_iff.2 hnames)
  rw [List.forall₂_eq_eq_eq] at hmap
  exact hmap.symm

structure Reread (c : Catalog) (a : Artifact) (deps : List (String × List (DependencyEntry Bag)))
    (x : Artifact) : Prop where
  header : x.toHeader = a.toHeader
  type : x.type = a.type
  definitions : x.definitions = a.definitions
  property : AgreeOn .property x a
  blob : AgreeOn .blob x a
  absent : ∀ e ∈ a.definitions, e.2.role = .dependency → e.1 ∉ Dict.keys deps →
    x.peek e.1 = e.2.default
  given : ∀ e ∈ a.definitions, e.2.role = .dependency → ∀ entries, (e.1, entries) ∈ deps →
    ∃ xs, TargetsRead c entries xs ∧
      x.peek e.1 = (collect e.2 (xs.map .artifact)).or e.2.default

namespace Sound

variable {t : ArtifactType} {a : Artifact}

omit [Predicates Artifact] in
lemma exists_field_of_mem {e : String × Definition Artifact} (he : e ∈ a.definitions) :
    ∃ f, (e.1, f) ∈ a.fields ∧ f.definition = e.2 := by
  obtain ⟨x, hx, rfl⟩ := List.mem_map.1 he
  exact ⟨x.2, hx, rfl⟩

lemma peek_normal (h : a.Sound t) {e : String × Definition Artifact} (he : e ∈ a.definitions) :
    ((a.peek e.1).map e.2.normalize).or e.2.default = a.peek e.1 := by
  obtain ⟨f, hf, hd⟩ := exists_field_of_mem he
  rw [h.peek_eq hf]
  cases hv : f.value? with
  | none =>
    have hdefault : f.definition.default = none := (Option.or_eq_none_iff.1 hv).2
    simp [← hd, hdefault]
  | some v =>
    have hn : f.definition.normalize v = v := (h.conforms hf hv).normalize
    simp [← hd, hn]

lemma peek_bare (h : a.Sound t) {e : String × Definition Artifact} (he : e ∈ a.definitions)
    (id : String) (now : Instant) : (blank t id now).peek e.1 = e.2.default := by
  rw [h.definitions_eq] at he
  rw [peek_blank, Dict.lookup_of_mem h.declared.attributes.1.nodup he]
  rfl

lemma role_eq (h : a.Sound t) {e : String × Definition Artifact} (he : e ∈ a.definitions)
    {role : Role} {f : Field Artifact} (hf : (e.1, f) ∈ a.fieldsOf role) : e.2.role = role := by
  obtain ⟨hm, hr⟩ := mem_fieldsOf.1 hf
  have hd : (e.1, f.definition) ∈ a.definitions := List.mem_map_of_mem hm
  have hl := Dict.lookup_of_mem h.sorted_definitions.nodup hd
  rw [Dict.lookup_of_mem h.sorted_definitions.nodup he] at hl
  rw [Option.some.inj hl]
  exact hr

lemma property_read (h : a.Sound t) {ps : Values}
    (hps : (Leaves.ofProperties (Bag.propertiesOf a)).mapM
      (fun e => propertyValue t e.1 e.2) = .ok ps) {e : String × Option (Value Artifact)}
    (he : e ∈ ps) : e.2 = a.peek e.1 ∧ ∃ f, (e.1, f) ∈ a.fieldsOf .property := by
  have hps' := Outcome.mapM_ok fun e he => h.propertyValue_eq (e := e) he
  rw [Except.ok.inj (hps.symm.trans hps')] at he
  obtain ⟨x, hx, rfl⟩ := List.mem_map.1 he
  obtain ⟨l, hl, _⟩ := Leaves.mem_ofProperties h.cuts_parts h.nodup_parts h.propertiesOf_perm hx
  obtain ⟨y, hy, hyx⟩ := List.mem_map.1 hl
  obtain ⟨hk, _⟩ := Prod.mk.inj hyx
  exact ⟨rfl, y.2, hk ▸ hy⟩

lemma blob_read (h : a.Sound t) {bs : Values}
    (hbs : (Bag.selected (·.blob?) (a.fieldsOf .blob)).mapM
      (fun e => blobValue t e.1 e.2) = .ok bs) {e : String × Option (Value Artifact)}
    (he : e ∈ bs) : e.2 = a.peek e.1 ∧ ∃ f, (e.1, f) ∈ a.fieldsOf .blob := by
  have hbs' := Outcome.mapM_ok fun e he => (h.blobValue_eq (e := e) he).1
  rw [Except.ok.inj (hbs.symm.trans hbs')] at he
  obtain ⟨x, hx, rfl⟩ := List.mem_map.1 he
  obtain ⟨f, hf, _⟩ := mem_selected.1 hx
  exact ⟨rfl, f, hf⟩

lemma values_read (h : a.Sound t) {ps bs : Values}
    (hps : (Leaves.ofProperties (Bag.propertiesOf a)).mapM
      (fun e => propertyValue t e.1 e.2) = .ok ps)
    (hbs : (Bag.selected (·.blob?) (a.fieldsOf .blob)).mapM
      (fun e => blobValue t e.1 e.2) = .ok bs) :
    (∀ e ∈ ps ++ bs, e.2 = a.peek e.1 ∧
      ∃ role, role ≠ .dependency ∧ ∃ f, (e.1, f) ∈ a.fieldsOf role) ∧
      ∀ e ∈ a.definitions, e.2.role ≠ .dependency → e.1 ∉ Dict.keys (ps ++ bs) →
        a.peek e.1 = none := by
  obtain ⟨ps', hp, hdp⟩ := h.properties_decode
  obtain ⟨bs', hb, hdb⟩ := h.blobs_decode
  obtain rfl : ps' = ps := Except.ok.inj (hp.symm.trans hps)
  obtain rfl : bs' = bs := Except.ok.inj (hb.symm.trans hbs)
  refine ⟨fun e he => ?_, fun e he hr hk => ?_⟩
  · rcases List.mem_append.1 he with he | he
    · obtain ⟨hv, hf⟩ := h.property_read hps he
      exact ⟨hv, .property, nofun, hf⟩
    · obtain ⟨hv, hf⟩ := h.blob_read hbs he
      exact ⟨hv, .blob, nofun, hf⟩
  · obtain ⟨f, hf, hd⟩ := exists_field_of_mem he
    rw [h.peek_eq hf]
    rw [Dict.keys, List.map_append, List.mem_append, not_or] at hk
    cases hrole : e.2.role with
    | property => exact (hdp.covers _ (mem_fieldsOf.2 ⟨hf, hd ▸ hrole⟩)).resolve_left hk.1
    | blob => exact (hdb.covers _ (mem_fieldsOf.2 ⟨hf, hd ▸ hrole⟩)).resolve_left hk.2
    | dependency => exact absurd hrole hr

lemma storeAll_new (h : a.Sound t) {id : String} {now : Instant} {vs : Values} {b : Artifact}
    (hb : ((blank t id now).seedDefaults).storeAll vs = .ok b) :
    b.type = a.type ∧ b.definitions = a.definitions ∧
      (∀ e ∈ a.definitions, e.1 ∉ Dict.keys vs → b.peek e.1 = e.2.default) ∧
      ∀ e ∈ a.definitions, ∀ w, e.1 ∈ Dict.keys vs → (∀ v, (e.1, v) ∈ vs → v = w) →
        b.peek e.1 = (w.map e.2.normalize).or e.2.default := by
  have hnew : ((blank t id now).seedDefaults).definitions = a.definitions :=
    ((coherent_blank h.declared id now).seedDefaults).definitions.trans h.definitions_eq.symm
  obtain ⟨hbt, hbd, hrest, hgiven⟩ := storeAll_peek (hnew ▸ h.sorted_definitions) hb
  rw [hnew] at hbd hgiven
  refine ⟨hbt.trans h.coherent.type_eq.symm, hbd, fun e he hk => ?_, fun e he w hk hw => ?_⟩
  · rw [hrest _ hk, peek_seedDefaults, h.peek_bare he]
  · exact hgiven e.1 e.2 w he hk hw

lemma storeAll_shown (h : a.Sound t) {id : String} {now : Instant} {vs : Values} {b : Artifact}
    (hb : ((blank t id now).seedDefaults).storeAll vs = .ok b)
    {e : String × Definition Artifact} (he : e ∈ a.definitions)
    (hshown : ∀ v, (e.1, v) ∈ vs → v = a.peek e.1)
    (hunset : e.1 ∉ Dict.keys vs → a.peek e.1 = none) : b.peek e.1 = a.peek e.1 := by
  obtain ⟨_, _, hrest, hgiven⟩ := h.storeAll_new hb
  have hnormal := h.peek_normal he
  by_cases hk : e.1 ∈ Dict.keys vs
  · rw [hgiven e he _ hk hshown, hnormal]
  · rw [hunset hk] at hnormal
    rw [hrest e he hk, hunset hk]
    exact hnormal

lemma storeAll_targets (h : a.Sound t) {i : String} {now : Instant} {vs : Values} {b : Artifact}
    (hb : ((blank t i now).seedDefaults).storeAll vs = .ok b)
    {e : String × Definition Artifact} (he : e ∈ a.definitions) (hr : e.2.role = .dependency)
    {w : Option (Value Artifact)} (hm : (e.1, w) ∈ vs) (hw : ∀ v, (e.1, v) ∈ vs → v = w) :
    b.peek e.1 = w.or e.2.default := by
  obtain ⟨_, _, _, hgiven⟩ := h.storeAll_new hb
  have hid : e.2.normalize = id := funext (Definition.normalize_dependency hr)
  rw [hgiven e he w (Dict.mem_keys_of_mem hm) hw, hid, Option.map_id, id]

theorem reread (h : a.Sound t) {c : Catalog} (hc : c.Registered) (ht : t ∈ c.types)
    {deps : List (String × List (DependencyEntry Bag))} (hn : (Dict.keys deps).Nodup)
    (hdeps : ∀ p ∈ deps, ∀ e ∈ a.definitions, e.1 = p.1 → e.2.role = .dependency) {x : Artifact}
    (hx : ofBag c { Bag.ofArtifact a with dependencies := deps } = .ok x) : Reread c a deps x := by
  obtain ⟨t', ps, bs, ds, b, hbyName, hps, hbs, hds, hb, rfl⟩ := ofBag_eq_ok hx
  have htype : c.byName a.type.name (some a.type.version) = .ok t := by
    rw [h.coherent.type_eq]
    exact hc.byName_eq ht
  obtain rfl : t = t' := Except.ok.inj (htype.symm.trans hbyName)
  obtain ⟨hread, hunset⟩ := h.values_read hps hbs
  obtain ⟨hbt, hbd, hrest, _⟩ := h.storeAll_new hb
  have hkeys : Dict.keys ds = Dict.keys deps := keys_dependencyValues hds
  -- A name belongs to one role, so what was read of the others does not touch the dependencies.
  have hdep : ∀ e ∈ a.definitions, e.2.role ≠ .dependency → e.1 ∉ Dict.keys ds := by
    intro e he hr hk
    rw [hkeys] at hk
    obtain ⟨p, hp, hpe⟩ := List.mem_map.1 hk
    exact hr (hdeps p hp e he hpe.symm)
  have hnot : ∀ e ∈ a.definitions, e.2.role = .dependency → e.1 ∉ Dict.keys (ps ++ bs) := by
    intro e he hr hk
    obtain ⟨p, hp, hpe⟩ := List.mem_map.1 hk
    obtain ⟨_, role, hrole, f, hf⟩ := hread p hp
    rw [hpe] at hf
    exact hrole ((h.role_eq he hf).symm.trans hr)
  have happend : Dict.keys (ps ++ bs ++ ds) = Dict.keys (ps ++ bs) ++ Dict.keys ds :=
    List.map_append
  have hother : ∀ role, role ≠ .dependency → AgreeOn role b a := by
    intro role hrole e he hr
    rw [← hr] at hrole
    refine h.storeAll_shown hb he (fun v hv => ?_) fun hk => hunset e he hrole fun hk' => hk ?_
    · rcases List.mem_append.1 hv with hv | hv
      · exact (hread _ hv).1
      · exact absurd (Dict.mem_keys_of_mem hv) (hdep e he hrole)
    · rw [happend]
      exact List.mem_append_left _ hk'
  constructor
  case header => rfl
  case type => exact hbt
  case definitions => exact hbd
  case property => exact hother _ nofun
  case blob => exact hother _ nofun
  case absent =>
    intro e he hr hk
    refine hrest e he ?_
    rw [happend, hkeys, List.mem_append, not_or]
    exact ⟨hnot e he hr, hk⟩
  case given =>
    intro e he hr entries hm
    obtain ⟨q, hq, d, xs, hd, hxs, rfl⟩ := Outcome.exists_right (dependencyValues_eq_ok hds) hm
    obtain ⟨f, hf, hfd⟩ := exists_field_of_mem he
    obtain rfl : d = e.2 := hfd ▸ Except.ok.inj (hd.symm.trans (h.definitionOf_eq hf))
    refine ⟨xs, hxs, h.storeAll_targets hb he hr (List.mem_append_right _ hq) fun v hv => ?_⟩
    rcases List.mem_append.1 hv with hv | hv
    · exact absurd (Dict.mem_keys_of_mem hv) (hnot e he hr)
    · have hnodup : (Dict.keys ds).Nodup := hkeys ▸ hn
      have hl := Dict.lookup_of_mem hnodup hv
      rw [Dict.lookup_of_mem hnodup hq] at hl
      exact (Option.some.inj hl).symm

end Sound

namespace Reread

variable {t : ArtifactType} {a x : Artifact} {c : Catalog}
  {deps : List (String × List (DependencyEntry Bag))}

lemma ofArtifact_eq (h : a.Sound t) (hx : Reread c a deps x) :
    Bag.ofArtifact x = { Bag.ofArtifact a with dependencies := (Bag.ofArtifact x).dependencies } := by
  have hs := h.sorted_definitions
  have hproperties := propertiesOf_agree hs hx.definitions hx.property
  have hblobs : Bag.selected (·.blob?) (x.fieldsOf .blob) =
      Bag.selected (·.blob?) (a.fieldsOf .blob) := by
    refine selected_agree (·.blob?) hs hx.definitions fun e he hr => ?_
    rw [hx.blob e he hr]
  rw [Bag.ofArtifact, hproperties, hblobs, hx.header, hx.type]
  rfl

lemma dependencies_cut (h : a.Sound t) (hx : Reread c a [] x) (id : String) (now : Instant) :
    (Bag.ofArtifact x).dependencies = (Bag.ofArtifact (blank t id now)).dependencies := by
  have hdefs : (blank t id now).definitions = t.attributes :=
    (coherent_blank h.declared id now).definitions
  have hx' : x.definitions = (blank t id now).definitions :=
    hx.definitions.trans (h.definitions_eq.trans hdefs.symm)
  refine selected_agree _ (hdefs ▸ h.declared.attributes.1) hx' fun e he hr => ?_
  rw [hdefs, ← h.definitions_eq] at he
  rw [hx.absent e he hr List.not_mem_nil, h.peek_bare he]

def targetEntry (v : Value Artifact) : Option (DependencyEntry Bag) :=
  v.artifact?.map fun target => .id target.id

omit [Predicates Artifact] in
lemma itemsOf_targets {d : Definition Artifact} {v : Value Artifact} {ts : List Artifact}
    (h : d.Wraps .artifact v ts) :
    Bag.itemsOf targetEntry (some v) = some (ts.map fun target => .id target.id) :=
  h.itemsOf_eq (fun _ _ hl => nomatch hl) targetEntry (fun target => .id target.id) fun _ => rfl

def StandFor (a : Artifact) (deps : List (String × List (DependencyEntry Bag))) : Prop :=
  Dict.mapValues (·.map fun e => .id (Bag.targetId e)) deps = (Bag.ofArtifact a).dependencies

omit [Predicates Artifact] in
lemma keys_standFor (hd : StandFor a deps) :
    Dict.keys deps = Dict.keys (Bag.ofArtifact a).dependencies := by
  rw [← hd, Dict.mapValues, Dict.keys, Dict.keys, List.map_map]
  rfl

lemma ids_targetsRead {entries : List (DependencyEntry Bag)} {xs : List Artifact}
    (h : TargetsRead c entries xs) : entries.map Bag.targetId = xs.map (·.id) := by
  have hids := h.imp fun e y hy => (show Bag.targetId e = y.id by
    obtain ⟨b, rfl, hb⟩ := hy
    exact (congrArg Header.id (header_ofBag hb)).symm)
  have hmap := List.forall₂_map_left_iff.2 (List.forall₂_map_right_iff.2 hids)
  rwa [List.forall₂_eq_eq_eq] at hmap

lemma unset_not_mem_keys (h : a.Sound t) (hd : StandFor a deps) {name : String}
    {f : Field Artifact} (hf : (name, f) ∈ a.fields) (hv : f.value? = none) :
    name ∉ Dict.keys deps := by
  intro hk
  rw [keys_standFor hd] at hk
  obtain ⟨p, hp, rfl⟩ := List.mem_map.1 hk
  obtain ⟨g, hg, hi⟩ := Sound.mem_selected.1 hp
  have hl := Dict.lookup_of_mem h.sorted.nodup (mem_fieldsOf.1 hg).1
  rw [Dict.lookup_of_mem h.sorted.nodup hf] at hl
  obtain rfl := Option.some.inj hl
  rw [hv] at hi
  cases hi

omit [Predicates Artifact] in
lemma entries_standFor (hd : StandFor a deps) {name : String} {f : Field Artifact}
    (hf : (name, f) ∈ a.fieldsOf .dependency) {v : Value Artifact} (hv : f.value? = some v)
    {ts : List Artifact} (hts : f.definition.Wraps .artifact v ts) :
    ∃ entries, (name, entries) ∈ deps ∧ entries.map Bag.targetId = ts.map (·.id) := by
  have hi := itemsOf_targets hts
  have hm : (name, ts.map fun target => (.id target.id : DependencyEntry Bag)) ∈
      (Bag.ofArtifact a).dependencies := Sound.mem_selected.2 ⟨f, hf, hv ▸ hi⟩
  rw [← hd] at hm
  obtain ⟨p, hp, hpe⟩ := List.mem_map.1 hm
  obtain ⟨rfl, hentries⟩ := Prod.mk.inj hpe
  have htarget := congrArg (List.map Bag.targetId) hentries
  rw [List.map_map, List.map_map] at htarget
  exact ⟨p.2, hp, htarget⟩

lemma peek_dependency (h : a.Sound t) (hx : Reread c a deps x) (hd : StandFor a deps)
    {e : String × Definition Artifact} (he : e ∈ a.definitions) (hr : e.2.role = .dependency) :
    (a.peek e.1 = none ∧ x.peek e.1 = none) ∨ ∃ v w ts xs entries, a.peek e.1 = some v ∧
      x.peek e.1 = some w ∧ e.2.Wraps .artifact v ts ∧ e.2.Wraps .artifact w xs ∧
      xs.map (·.id) = ts.map (·.id) ∧ (e.1, entries) ∈ deps ∧ TargetsRead c entries xs := by
  obtain ⟨f, hf, hfd⟩ := Sound.exists_field_of_mem he
  rw [h.peek_eq hf]
  cases hv : f.value? with
  | none =>
    have hdefault : f.definition.default = none := (Option.or_eq_none_iff.1 hv).2
    refine Or.inl ⟨rfl, ?_⟩
    rw [hx.absent e he hr (unset_not_mem_keys h hd hf hv), ← hfd, hdefault]
  | some v =>
    obtain ⟨ts, hts⟩ := Definition.wraps_targets (hfd ▸ hr) (h.conforms hf hv)
    obtain ⟨entries, hm, htargets⟩ :=
      entries_standFor hd (mem_fieldsOf.2 ⟨hf, hfd ▸ hr⟩) hv hts
    obtain ⟨xs, hxs, hpeek⟩ := hx.given e he hr entries hm
    have hids : xs.map (·.id) = ts.map (·.id) := (ids_targetsRead hxs).symm.trans htargets
    have hlength : xs.length = ts.length := by
      have hl := congrArg List.length hids
      rwa [List.length_map, List.length_map] at hl
    rw [hfd] at hts
    obtain ⟨w, hw, hwx⟩ := hts.collect_some hlength
    rw [hw, Option.some_or] at hpeek
    exact Or.inr ⟨v, w, ts, xs, entries, rfl, hpeek, hts, hwx, hids, hm, hxs⟩

lemma dependencies_eq (h : a.Sound t) (hx : Reread c a deps x) (hd : StandFor a deps) :
    (Bag.ofArtifact x).dependencies = (Bag.ofArtifact a).dependencies := by
  apply selected_agree targetEntry h.sorted_definitions hx.definitions
  intro e he hr
  rcases hx.peek_dependency h hd he hr with
    ⟨ha, hx⟩ | ⟨v, w, ts, xs, _, ha, hx, hv, hw, hids, _⟩
  · rw [ha, hx]
  · have hmap := congrArg (List.map (DependencyEntry.id (β := Bag))) hids
    rw [List.map_map, List.map_map] at hmap
    rw [ha, hx, itemsOf_targets hv, itemsOf_targets hw]
    exact congrArg some hmap

lemma targets_of_other (h : a.Sound t) {e : String × Definition Artifact}
    (he : e ∈ a.definitions) (hr : e.2.role ≠ .dependency) : targets (a.peek e.1) = [] := by
  obtain ⟨f, hf, hfd⟩ := Sound.exists_field_of_mem he
  rw [h.peek_eq hf]
  cases hv : f.value? with
  | none => rfl
  | some v =>
    have hc := h.conforms hf hv
    cases hrole : f.definition.role with
    | dependency => exact absurd (hfd ▸ hrole) hr
    | blob =>
      obtain ⟨bs, ⟨_, rfl⟩ | ⟨_, _, _, rfl⟩⟩ := Definition.wraps_blobs hrole hc
      · simp [targets, List.filterMap_map, Value.artifact?]
      · rfl
    | property =>
      exact targets_plain (h.storable.flattenable _ (mem_fieldsOf.2 ⟨hf, hrole⟩)).plain hc

lemma dependency_of_target (h : a.Sound t) (hx : Reread c a deps x) {name : String} {g : Artifact}
    (hg : g ∈ targets (x.peek name)) : ∃ d, (name, d) ∈ a.definitions ∧ d.role = .dependency := by
  cases hl : x.definitions.lookup name with
  | none =>
    rw [lookup_definitions, Option.map_eq_none_iff] at hl
    rw [peek, field?, hl] at hg
    cases hg
  | some d =>
    rw [hx.definitions] at hl
    have he := Dict.mem_of_lookup hl
    refine ⟨d, he, ?_⟩
    by_contra hr
    have hsame : x.peek name = a.peek name := by
      cases hrole : d.role with
      | property => exact hx.property _ he hrole
      | blob => exact hx.blob _ he hrole
      | dependency => exact absurd hrole hr
    rw [hsame, targets_of_other h he hr] at hg
    cases hg

lemma targets_read (h : a.Sound t) (hx : Reread c a deps x) (hd : StandFor a deps) {name : String}
    {g : Artifact} (hg : g ∈ targets (x.peek name)) :
    ∃ p ∈ deps, ∃ y, .expanded y ∈ p.2 ∧ ofBag c y = .ok g := by
  obtain ⟨d, he, hr⟩ := hx.dependency_of_target h hg
  rcases hx.peek_dependency h hd he hr with
    ⟨_, hnone⟩ | ⟨_, w, _, xs, entries, _, hw, _, hwx, _, hm, hxs⟩
  · rw [hnone] at hg
    cases hg
  · rw [hw, hwx.targets_eq] at hg
    obtain ⟨e, hem, y, rfl, hy⟩ := Outcome.exists_left hxs hg
    exact ⟨_, hm, y, hem, hy⟩

lemma of_cut (h : a.Sound t) (hc : c.Registered) (ht : t ∈ c.types)
    (hx : ofBag c { Bag.ofArtifact a with dependencies := [] } = .ok x) : Reread c a [] x :=
  h.reread hc ht (show (Dict.keys []).Nodup from List.nodup_nil) (by simp) hx

lemma of_standFor (h : a.Sound t) (hc : c.Registered) (ht : t ∈ c.types) (hd : StandFor a deps)
    (hx : ofBag c { Bag.ofArtifact a with dependencies := deps } = .ok x) : Reread c a deps x := by
  have hn : (Dict.keys deps).Nodup := by
    have hs : Dict.Sorted (a.fieldsOf .dependency) := h.sorted.filter _
    rw [keys_standFor hd]
    exact hs.nodup.sublist
      (Dict.keys_filterMap (fun _ (f : Field Artifact) => Bag.itemsOf targetEntry f.value?) _)
  refine h.reread hc ht hn (fun p hp e he hep => ?_) hx
  have hk : p.1 ∈ Dict.keys (Bag.ofArtifact a).dependencies :=
    keys_standFor hd ▸ Dict.mem_keys_of_mem hp
  obtain ⟨q, hq, hqp⟩ := List.mem_map.1 hk
  obtain ⟨f, hf, _⟩ := Sound.mem_selected.1 hq
  rw [hqp.trans hep.symm] at hf
  exact h.role_eq he hf

end Reread

end

end TypedArtifacts.Artifact
