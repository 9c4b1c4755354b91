import TypedArtifacts.Proofs.Artifact.Decoded

namespace TypedArtifacts.Artifact

def shown (a : Artifact) (name : String) : Option (Value Artifact) :=
  (a.peek name).map settledValue

def definitions (a : Artifact) : List (String × Definition Artifact) :=
  a.fields.map fun e => (e.1, e.2.definition)

lemma lookup_definitions (a : Artifact) (name : String) :
    a.definitions.lookup name = (a.fields.lookup name).map (·.definition) :=
  Dict.lookup_map (fun _ (f : Field Artifact) => f.definition) a.fields name

lemma sorted_fields {a : Artifact} (h : Dict.Sorted a.definitions) : Dict.Sorted a.fields :=
  Dict.sorted_of_map (fun _ (f : Field Artifact) => f.definition) h

lemma exists_field {a b : Artifact} (hd : b.definitions = a.definitions) {name : String}
    {f : Field Artifact} (hf : a.fields.lookup name = some f) :
    ∃ g, b.fields.lookup name = some g ∧ g.definition = f.definition := by
  have hdef := lookup_definitions b name
  rw [hd, lookup_definitions, hf] at hdef
  exact Option.map_eq_some_iff.1 hdef.symm

theorem settled_ext {a b : Artifact} (hh : b.toHeader = a.toHeader) (ht : b.type = a.type)
    (hs : Dict.Sorted a.definitions) (hd : b.definitions = a.definitions)
    (h : ∀ name, b.shown name = a.shown name) : b.settled = a.settled := by
  have hfields : (b.fields.map fun e => (e.1, settledField e.2)) =
      a.fields.map fun e => (e.1, settledField e.2) := by
    have hb : Dict.Sorted b.fields := sorted_fields (hd ▸ hs)
    apply (hb.map fun _ f => settledField f).ext ((sorted_fields hs).map fun _ f => settledField f)
    intro name
    rw [Dict.lookup_map (fun _ f => settledField f), Dict.lookup_map (fun _ f => settledField f)]
    cases hl : a.fields.lookup name with
    | none =>
      cases hl' : b.fields.lookup name with
      | none => rfl
      | some g =>
        obtain ⟨f, hf, _⟩ := exists_field hd.symm hl'
        rw [hl] at hf
        cases hf
    | some f =>
      obtain ⟨g, hg, hgd⟩ := exists_field hd hl
      have hval : g.value?.map settledValue = f.value?.map settledValue := by
        have hname := h name
        simp only [shown, peek, field?, hl, hg] at hname
        exact hname
      simp only [hg, Option.map_some, settledField_eq, hgd, hval]
  rw [settled_eq, settled_eq, hfields, hh, ht]

lemma lookup_blank (t : ArtifactType) (id : String) (now : Instant) (name : String) :
    (blank t id now).fields.lookup name = (t.attributes.lookup name).map Field.blank :=
  Dict.lookup_map (fun _ d => Field.blank d) t.attributes name

lemma lookup_seedDefaults (a : Artifact) (name : String) :
    a.seedDefaults.fields.lookup name = (a.fields.lookup name).map (·.materialize) :=
  Dict.lookup_map (fun _ (f : Field Artifact) => f.materialize) a.fields name

lemma peek_blank (t : ArtifactType) (id : String) (now : Instant) (name : String) :
    (blank t id now).peek name = (t.attributes.lookup name).bind (·.default) := by
  rw [peek, field?, lookup_blank]
  cases t.attributes.lookup name <;> rfl

lemma peek_seedDefaults (a : Artifact) (name : String) : a.seedDefaults.peek name = a.peek name := by
  rw [peek, field?, lookup_seedDefaults, peek, field?]
  cases a.fields.lookup name with
  | none => rfl
  | some f => exact Field.value?_materialize f

section

variable [Predicates Artifact]

lemma store_eq {f g : Field Artifact} {name : String} {v : Option (Value Artifact)}
    (hg : g.definition = f.definition) (hn : v.map f.definition.normalize = v)
    (hv : f.definition.validateAs name v = .ok ()) : g.store name v = .ok (g.commit v) := by
  have hbind : (do
      f.definition.validateAs name v
      return g.commit v) = Except.ok (g.commit v) := by
    rw [hv]
    rfl
  unfold Field.store
  rw [hg, hn]
  exact hbind

omit [Predicates Artifact] in
lemma shown_withField {a b : Artifact} {name : String} {f g : Field Artifact}
    {v : Option (Value Artifact)} (hf : a.peek name = f.value?) (hg : b.fields.lookup name = some g)
    (hd : g.definition = f.definition) (hv : Agree v f.value?) (x : String) :
    (b.withField name (g.commit v)).shown x = if x = name then a.shown x else b.shown x := by
  have hl : ((b.withField name (g.commit v)).fields.lookup x) =
      if x = name then (b.fields.lookup x).map fun _ => g.commit v else b.fields.lookup x :=
    Dict.lookup_adjust name (fun _ => g.commit v) b.fields x
  simp only [shown, peek, field?, hl]
  by_cases hx : x = name
  · subst hx
    rw [peek, field?] at hf
    rw [if_pos rfl, if_pos rfl, hg, hf]
    change ((g.commit v).value?).map settledValue = _
    cases v with
    | some w => exact hv
    | none =>
      have hnone : f.value? = none := by
        cases hfv : f.value? with
        | none => rfl
        | some u =>
          rw [Agree, hfv] at hv
          cases hv
      have hdefault : g.definition.default = none := by
        rw [hd]
        exact (Option.or_eq_none_iff.1 hnone).2
      rw [hnone]
      simp [Field.commit, Field.value?, hdefault]
  · rw [if_neg hx, if_neg hx]

theorem storeAll_ok {a b : Artifact} {vs : Values} (hs : Dict.Sorted a.definitions)
    (hd : b.definitions = a.definitions) (hr : ∀ e ∈ vs, a.Restores e.1 e.2) :
    ∃ c, b.storeAll vs = .ok c ∧ c.toHeader = b.toHeader ∧ c.type = b.type ∧
      c.definitions = a.definitions ∧
      ∀ name, c.shown name = if name ∈ Dict.keys vs then a.shown name else b.shown name := by
  induction vs generalizing b with
  | nil => exact ⟨b, rfl, rfl, rfl, hd, by simp⟩
  | cons e vs ih =>
    obtain ⟨f, hf, hv, hn, hvalid⟩ := hr e List.mem_cons_self
    have hlook : a.fields.lookup e.1 = some f := Dict.lookup_of_mem (sorted_fields hs).nodup hf
    obtain ⟨g, hg, hgd⟩ := exists_field hd hlook
    have hfind : b.findField e.1 = .ok g := by simp only [findField, field?, hg]
    have hsorted : Dict.Sorted b.fields := sorted_fields (hd ▸ hs)
    have hkept : (b.withField e.1 (g.commit e.2)).definitions = a.definitions :=
      (definitions_withField hsorted hg (show (g.commit e.2).definition = g.definition from rfl)).trans
        hd
    obtain ⟨c, hc, hh, ht, hcd, hshown⟩ := ih hkept fun x hx => hr x (List.mem_cons_of_mem _ hx)
    refine ⟨c, ?_, hh, ht, hcd, fun name => ?_⟩
    · rw [storeAll, hfind, Outcome.ok_bind, store_eq hgd hn hvalid, Outcome.ok_bind, hc]
    · have hpeek : a.peek e.1 = f.value? := by
        rw [peek, field?, hlook]
        rfl
      rw [hshown, shown_withField hpeek hg hgd hv]
      by_cases hx : name = e.1
      · simp [hx]
      · simp [hx]

omit [Predicates Artifact] in
lemma peek_of_mem {a : Artifact} (hs : Dict.Sorted a.definitions) {e : String × Field Artifact}
    (he : e ∈ a.fields) : a.peek e.1 = e.2.value? := by
  rw [peek, field?, Dict.lookup_of_mem (sorted_fields hs).nodup he]
  rfl

omit [Predicates Artifact] in
lemma checkRequired_eq_ok {a : Artifact} (hs : Dict.Sorted a.definitions) :
    a.checkRequired = .ok () ↔ ∀ e ∈ a.definitions, e.2.role = .property →
      e.2.required = true → (a.peek e.1).isSome = true := by
  have hfind : a.checkRequired = .ok () ↔ (a.fieldsOf .property).find?
      (fun e => e.2.definition.required && e.2.value?.isNone) = none := by
    unfold checkRequired
    split
    · rename_i h
      simp [h]
    · rename_i h
      simp [h]
  rw [hfind, List.find?_eq_none]
  constructor
  · intro h e he hrole hr
    obtain ⟨x, hx, rfl⟩ := List.mem_map.1 he
    have hset := h x (mem_fieldsOf.2 ⟨hx, hrole⟩)
    rw [peek_of_mem hs hx]
    simpa [show x.2.definition.required = true from hr, ← Option.ne_none_iff_isSome] using hset
  · intro h x hx
    obtain ⟨hm, hrole⟩ := mem_fieldsOf.1 hx
    cases hr : x.2.definition.required with
    | false => simp
    | true =>
      have hset := h _ (List.mem_map_of_mem hm) hrole hr
      rw [peek_of_mem hs hm] at hset
      simp [Option.isSome_iff_ne_none.1 hset]

namespace Sound

variable {t : ArtifactType} {a : Artifact}

lemma definitions_eq (h : a.Sound t) : a.definitions = t.attributes :=
  h.coherent.definitions

lemma sorted_definitions (h : a.Sound t) : Dict.Sorted a.definitions := by
  rw [h.definitions_eq]
  exact h.declared.attributes.1

lemma unset_of_not_decoded {ps bs ds : Values} (hps : a.Decodes .property ps)
    (hbs : a.Decodes .blob bs) (hds : a.Decodes .dependency ds) {name : String}
    (hk : name ∉ Dict.keys (ps ++ bs ++ ds)) : a.peek name = none := by
  simp only [Dict.keys, List.map_append, List.mem_append, not_or] at hk
  obtain ⟨⟨hp, hb⟩, hd⟩ := hk
  cases hl : a.fields.lookup name with
  | none => simp [peek, field?, hl]
  | some f =>
    have hm := Dict.mem_of_lookup hl
    have hval : f.value? = none := by
      cases hr : f.definition.role with
      | property => exact (hps.covers _ (mem_fieldsOf.2 ⟨hm, hr⟩)).resolve_left hp
      | blob => exact (hbs.covers _ (mem_fieldsOf.2 ⟨hm, hr⟩)).resolve_left hb
      | dependency => exact (hds.covers _ (mem_fieldsOf.2 ⟨hm, hr⟩)).resolve_left hd
    simp [peek, field?, hl, hval]

lemma shown_new (h : a.Sound t) (id : String) (now : Instant) {name : String}
    (hnone : a.peek name = none) : ((blank t id now).seedDefaults).shown name = none := by
  rw [shown, peek_seedDefaults, peek_blank, ← h.definitions_eq, lookup_definitions]
  rw [peek, field?] at hnone
  cases hl : a.fields.lookup name with
  | none => rfl
  | some f =>
    rw [hl] at hnone
    have hdefault : f.definition.default = none := (Option.or_eq_none_iff.1 hnone).2
    simp [hdefault]

lemma checkRequired_ok (h : a.Sound t) {b : Artifact} (hd : b.definitions = a.definitions)
    (hshown : ∀ name, b.shown name = a.shown name) : b.checkRequired = .ok () := by
  refine (checkRequired_eq_ok (hd ▸ h.sorted_definitions)).2 fun e he hrole hr => ?_
  rw [hd] at he
  obtain ⟨x, hx, rfl⟩ := List.mem_map.1 he
  have hset := h.storable.complete x (mem_fieldsOf.2 ⟨hx, hrole⟩) hr
  have hsame := hshown x.1
  rw [shown, shown, h.peek_eq hx] at hsame
  rw [← Option.isSome_map (f := settledValue), hsame, Option.isSome_map]
  exact hset

theorem recovers (h : a.Sound t) (hp : a.Impartial) {c : Catalog} (hc : c.Registered)
    (ht : t ∈ c.types) (ih : ∀ x : Artifact, x.Refers a → Recovers c x.expanded x) :
    Recovers c a.expanded a := by
  obtain ⟨ps, hps, hdp⟩ := h.properties_decode
  obtain ⟨bs, hbs, hdb⟩ := h.blobs_decode
  obtain ⟨ds, hds, hdd⟩ := h.dependencies_decode hp ih a.id
  have hbag : a.expanded = ⟨a.toHeader, a.type.name, a.type.version, Bag.propertiesOf a,
      Bag.selected (·.blob?) (a.fieldsOf .blob),
      Bag.selected expandedEntry (a.fieldsOf .dependency)⟩ := expanded_eq a
  have hbyName : c.byName a.type.name (some a.type.version) = .ok t := by
    rw [h.coherent.type_eq]
    exact hc.byName_eq ht
  have hnew := (coherent_blank h.declared a.id a.createdAt).seedDefaults
  have hrestores : ∀ e ∈ ps ++ bs ++ ds, a.Restores e.1 e.2 := by
    intro e he
    rcases List.mem_append.1 he with he | he
    · exact (List.mem_append.1 he).elim (hdp.restores e) (hdb.restores e)
    · exact hdd.restores e he
  obtain ⟨b, hb, _, htype, hd, hshown⟩ := storeAll_ok h.sorted_definitions
    (hnew.definitions.trans h.definitions_eq.symm) hrestores
  have hall : ∀ name, b.shown name = a.shown name := by
    intro name
    rw [hshown]
    split
    · rfl
    · rename_i hk
      have hnone := unset_of_not_decoded hdp hdb hdd hk
      rw [h.shown_new a.id a.createdAt hnone, shown, hnone]
      rfl
  have hvalues : ofValues t a.id a.createdAt (ps ++ bs ++ ds) = .ok b := by
    rw [ofValues, hb, Outcome.ok_bind, h.checkRequired_ok hd hall]
    rfl
  refine ⟨{ b with toHeader := a.toHeader }, ?_, ?_⟩
  · rw [hbag, ofBag, hbyName]
    simp only [Except.mapError, Outcome.ok_bind, hps, hbs, hds, hvalues]
    rfl
  · exact settled_ext rfl (htype.trans h.coherent.type_eq.symm) h.sorted_definitions hd hall

lemma finite (h : a.Sound t) : a.Finite := by
  intro e he v hv x hx
  have hc := h.conforms he hv
  cases hr : e.2.definition.role with
  | property => exact (h.storable.expressible e (mem_fieldsOf.2 ⟨he, hr⟩) v hv).finite x hx
  | blob =>
    obtain ⟨bs, hw⟩ := Definition.wraps_blobs hr hc
    exact absurd hx (hw.not_within (fun _ => rfl) (by simp) (by simp))
  | dependency =>
    obtain ⟨ts, hw⟩ := Definition.wraps_targets hr hc
    exact absurd hx (hw.not_within (fun _ => rfl) (by simp) (by simp))

end Sound

end

lemma settled_field? (a : Artifact) (name : String) :
    a.settled.field? name = (a.field? name).map settledField := by
  rw [settled_eq]
  exact Dict.lookup_map (fun _ (f : Field Artifact) => settledField f) a.fields name

lemma shown_settled (a : Artifact) (name : String) : a.shown name = a.settled.peek name := by
  rw [shown, peek, peek, settled_field?]
  cases a.field? name with
  | none => rfl
  | some f => exact (value?_settledField f).symm

/-- One artifact reads as another: unset values, empty collections and defaults stay apart. -/
structure ReadsAs (b a : Artifact) : Prop where
  same : Artifact.same b a = true
  header : b.toHeader = a.toHeader
  type : b.type = a.type
  shown : ∀ name, b.shown name = a.shown name
  unset : ∀ name, b.peek name = none ↔ a.peek name = none
  emptyList : ∀ name, b.peek name = some (.list []) ↔ a.peek name = some (.list [])
  emptyDict : ∀ name, b.peek name = some (.dict []) ↔ a.peek name = some (.dict [])

lemma shown_eq_some_list (a : Artifact) (name : String) :
    a.shown name = some (.list []) ↔ a.peek name = some (.list []) := by
  rw [shown]
  cases a.peek name with
  | none => simp
  | some v => cases v <;> simp [settledValue, settledItems_eq]

lemma shown_eq_some_dict (a : Artifact) (name : String) :
    a.shown name = some (.dict []) ↔ a.peek name = some (.dict []) := by
  rw [shown]
  cases a.peek name with
  | none => simp
  | some v => cases v <;> simp [settledValue, settledEntries_eq]

lemma readsAs_of_settled {a b : Artifact} (h : b.settled = a.settled) (ha : same a a = true) :
    b.ReadsAs a := by
  have hshown : ∀ name, b.shown name = a.shown name := fun name => by
    rw [shown_settled, shown_settled, h]
  have hnone : ∀ x : Artifact, ∀ name, x.shown name = none ↔ x.peek name = none := fun x name =>
    Option.map_eq_none_iff
  constructor
  case same => rw [same_settled, h, ← same_settled, ha]
  case header =>
    have hh := congrArg toHeader h
    rwa [settled_eq, settled_eq] at hh
  case type =>
    have ht := congrArg Artifact.type h
    rwa [settled_eq, settled_eq] at ht
  case shown => exact hshown
  case unset => exact fun name => by rw [← hnone, hshown, hnone]
  case emptyList => exact fun name => by rw [← shown_eq_some_list, hshown, shown_eq_some_list]
  case emptyDict => exact fun name => by rw [← shown_eq_some_dict, hshown, shown_eq_some_dict]

/-- Reading the expanded bag of a storable artifact of registered types gives the artifact back, if
tests on what it refers to do not look at how that came about. -/
theorem ofBag_expanded [ArtifactPredicates] [Predicates Artifact] {c : Catalog} (hc : c.Registered)
    {a : Artifact}
    (ha : a.Throughout fun x => x.Storable ∧ x.Impartial ∧ ∃ t ∈ c.types, x.Written t) :
    ∃ b, ofBag c a.expanded = .ok b ∧ b.ReadsAs a := by
  have hsound : ∀ x : Artifact, x.Storable ∧ x.Impartial ∧ (∃ t ∈ c.types, x.Written t) →
      ∃ t ∈ c.types, x.Sound t := by
    rintro x ⟨hx, _, t, ht, hw⟩
    have hd := hc.declared t ht
    exact ⟨t, ht, hd, hw.coherent hd, hx⟩
  have hfinite : a.Throughout Finite := ha.mono fun x hx => by
    obtain ⟨t, _, hs⟩ := hsound x hx
    exact hs.finite
  have hrec : Sound.Recovers c a.expanded a := by
    -- What an artifact refers to comes back first, so this goes along references.
    clear hfinite
    induction ha with
    | @intro x hx _ ih =>
      obtain ⟨t, ht, hs⟩ := hsound x hx
      exact hs.recovers hx.2.1 hc ht ih
  obtain ⟨b, hb, hs⟩ := hrec
  exact ⟨b, hb, readsAs_of_settled hs (same_self hfinite)⟩

namespace Sample

open Definition

attribute [local instance] Predicates.parityAndSize ArtifactPredicates.owned

def book : Descriptor where
  name := "Book"
  version := "1.0.0"
  attributes := [
    ("title", ((scalar .string).apply .required).apply
      (.validator "filled" "Title is empty" "non_empty"))]

def shelf : Descriptor where
  name := "Shelf"
  version := "1.0.0"
  attributes := [
    ("books", .list .relation),
    ("counts", .dict (.dict (.scalar .integer)))]

def bookType : ArtifactType :=
  book.declare.toOption.get rfl

def shelfType : ArtifactType :=
  shelf.declare.toOption.get rfl

def catalog : Catalog :=
  ⟨[bookType, shelfType]⟩

lemma registered : catalog.Registered := by
  have hbook : bookType.Declared := by
    refine .declare (by simp [book]) (fun e he => ?_) (show book.declare = .ok bookType from rfl)
    obtain rfl := List.mem_singleton.1 he
    exact .facet (.validator ..) trivial (.facet .required trivial (.scalar _))
  have hshelf : shelfType.Declared := by
    refine .declare (by simp [shelf]) (fun e he => ?_) (show shelf.declare = .ok shelfType from rfl)
    rcases List.mem_cons.1 he with rfl | he
    · exact .list .relation
    · obtain rfl := List.mem_singleton.1 he
      exact .dict (.dict (.scalar _))
  exact .register (.register .empty hshelf rfl) hbook rfl

def title : Definition Artifact :=
  (bookType.attributes.lookup "title").get rfl

def books : Definition Artifact :=
  (shelfType.attributes.lookup "books").get rfl

def counts : Definition Artifact :=
  (shelfType.attributes.lookup "counts").get rfl

def start : Instant :=
  ⟨0, 0⟩

def untitled : Artifact :=
  (create bookType "b" "book" "1.0.0" start).toOption.get rfl

def novel : Artifact :=
  (untitled.set "title" (some (.string "Emma"))).toOption.get rfl

def bare : Artifact :=
  (create shelfType "s" "shelf" "1.0.0" start).toOption.get rfl

def rooms : Value Artifact :=
  .dict [("hall", .dict [("by.door", .integer 3)]), ("study", .dict [])]

def counted : Artifact :=
  (bare.set "counts" (some rooms)).toOption.get rfl

def edit : Guard :=
  (counted.openList "books").toOption.get rfl

def edited : Guard :=
  ((edit.editList (.append (.artifact novel))).toOption.get rfl).1

def stocked : Artifact :=
  counted.close edited

lemma fields_novel : novel.fields = [("title", ⟨title, some (.string "Emma"), false⟩)] := rfl

lemma fields_stocked : stocked.fields =
    [("books", ⟨books, some (.list [.artifact novel]), false⟩),
      ("counts", ⟨counts, some rooms, false⟩)] := rfl

lemma properties_stocked :
    stocked.fieldsOf .property = [("counts", ⟨counts, some rooms, false⟩)] := rfl

lemma written_novel : novel.Written bookType := by
  have hu : untitled.Written bookType :=
    .create (show create bookType "b" "book" "1.0.0" start = .ok untitled from rfl)
  refine .set hu (fun w hw => ?_)
    (show untitled.set "title" (some (.string "Emma")) = .ok novel from rfl)
  obtain rfl := Option.some.inj hw
  exact ordered_atom rfl nofun

lemma ordered_rooms : rooms.Ordered := by
  have hkeys : "hall" < "study" := by decide
  apply ordered_dict (List.pairwise_pair.2 hkeys)
  intro e he
  simp only [List.mem_cons, List.not_mem_nil, or_false] at he
  rcases he with rfl | rfl
  · apply ordered_dict (List.pairwise_singleton _ _)
    intro e he
    obtain rfl := List.mem_singleton.1 he
    exact ordered_atom rfl nofun
  · exact ordered_dict .nil nofun

lemma written_stocked : stocked.Written shelfType := by
  have hb : bare.Written shelfType :=
    .create (show create shelfType "s" "shelf" "1.0.0" start = .ok bare from rfl)
  have hc : counted.Written shelfType := by
    refine .set hb (fun w hw => ?_) (show bare.set "counts" (some rooms) = .ok counted from rfl)
    obtain rfl := Option.some.inj hw
    exact ordered_rooms
  refine .list hc (show counted.openList "books" = .ok edit from rfl) (.list .none ?_
    (show edit.editList (.append (.artifact novel)) = .ok (edited, none) from rfl))
  exact ordered_atom rfl nofun

lemma storable_of_string {x : Artifact} {name text : String} {t : Traits Artifact} {assigned : Bool}
    (hx : x.fields = [(name, ⟨⟨t, .scalar .string⟩, some (.string text), assigned⟩)])
    (ht : ShapeKept ⟨t, .scalar .string⟩) : x.Storable := by
  have hproperty : ∀ e ∈ x.fieldsOf .property,
      e = (name, ⟨⟨t, .scalar .string⟩, some (.string text), assigned⟩) := by
    intro e he
    obtain ⟨hm, _⟩ := mem_fieldsOf.1 he
    exact List.mem_singleton.1 (hx ▸ hm)
  constructor
  case shapeKept =>
    rw [hx, List.forall_mem_singleton]
    exact forall_within ht nofun
  case flattenable =>
    intro e he
    rw [hproperty e he]
    exact flattenable_of_parts ⟨rfl, rfl⟩ nofun nofun nofun
  case expressible =>
    intro e he v hv
    obtain rfl := hproperty e he
    obtain rfl := Option.some.inj hv
    exact Value.expressible_of_children nofun nofun nofun
  case dotless =>
    intro e he v hv p es hg
    obtain rfl := hproperty e he
    obtain rfl := Option.some.inj hv
    nomatch hg
  case complete =>
    intro e he _
    rw [hproperty e he]
    rfl

lemma storable_novel : novel.Storable :=
  storable_of_string fields_novel
    (ShapeKept.install (v := ⟨"filled", .custom "non_empty", "Title is empty"⟩)
      (shapeKept_ofKind (.scalar .string)) (by decide))

lemma shapeKept_books : ∀ p : Definition Artifact, p.Within books → p.ShapeKept := by
  refine forall_within (shapeKept_ofKind (.list .relation)) ?_
  intro q hq
  obtain rfl := List.mem_singleton.1 hq
  exact forall_within (shapeKept_ofKind .relation) nofun

lemma shapeKept_counts : ∀ p : Definition Artifact, p.Within counts → p.ShapeKept := by
  refine forall_within (shapeKept_ofKind (.dict (.dict (.scalar .integer)))) ?_
  intro q hq
  obtain rfl := List.mem_singleton.1 hq
  refine forall_within (shapeKept_ofKind (.dict (.scalar .integer))) ?_
  intro q hq
  obtain rfl := List.mem_singleton.1 hq
  exact forall_within (shapeKept_ofKind (.scalar .integer)) nofun

lemma flattenable_counts : counts.Flattenable := by
  refine flattenable_of_parts ⟨rfl, rfl⟩ nofun nofun fun q hq => ?_
  obtain rfl := List.mem_singleton.1 hq
  refine flattenable_of_parts ⟨rfl, rfl⟩ nofun nofun fun q hq => ?_
  obtain rfl := List.mem_singleton.1 hq
  exact flattenable_of_parts ⟨rfl, rfl⟩ nofun nofun nofun

lemma expressible_rooms : rooms.Expressible := by
  have hcount : ∀ n : Int64, (Value.integer n : Value Artifact).Expressible := fun n =>
    Value.expressible_of_children nofun nofun nofun
  refine Value.expressible_of_children nofun nofun fun u hu => ?_
  obtain ⟨e, he, rfl⟩ := List.mem_map.1 hu
  simp only [List.mem_cons, List.not_mem_nil, or_false] at he
  rcases he with rfl | rfl
  · exact Value.expressible_of_children nofun nofun fun u hu =>
      List.mem_singleton.1 hu ▸ hcount 3
  · exact Value.expressible_of_children nofun nofun nofun

lemma dotless_rooms : counts.Dotless rooms := by
  intro p es hg value hp hd
  cases hg with
  | whole => decide
  | @entry _ _ _ e hq _ hg =>
    obtain rfl := Option.some.inj hq
    generalize e.2 = w at hg
    cases hg with
    | whole =>
      cases hp
      cases hd
    | item hq => cases hq
    | @entry _ _ _ e hq _ hg =>
      obtain rfl := Option.some.inj hq
      generalize e.2 = w at hg
      cases hg with
      | whole => cases hp
      | item hq => cases hq
      | entry hq => cases hq

lemma storable_stocked : stocked.Storable where
  shapeKept := by
    rw [fields_stocked, List.forall_mem_cons, List.forall_mem_singleton]
    exact ⟨shapeKept_books, shapeKept_counts⟩
  flattenable := by
    rw [properties_stocked, List.forall_mem_singleton]
    exact flattenable_counts
  expressible := by
    rw [properties_stocked, List.forall_mem_singleton]
    intro v hv
    obtain rfl := Option.some.inj hv
    exact expressible_rooms
  dotless := by
    rw [properties_stocked, List.forall_mem_singleton]
    intro v hv
    obtain rfl := Option.some.inj hv
    exact dotless_rooms
  complete := by
    rw [properties_stocked, List.forall_mem_singleton]
    exact fun _ => rfl

lemma not_refers_rooms (t : Artifact) : ¬ rooms.Refers t := by
  have hthree : ¬(Value.integer 3).Refers t := Value.not_refers_leaf rfl nofun
  simp [rooms, hthree]

lemma not_refers_of_string {x : Artifact} {name text : String} {d : Definition Artifact}
    {assigned : Bool} (hx : x.fields = [(name, ⟨d, some (.string text), assigned⟩)]) (t : Artifact) :
    ¬t.Refers x := by
  rintro ⟨e, he, v, hv, ht⟩
  obtain rfl := List.mem_singleton.1 (hx ▸ he)
  obtain rfl := Option.some.inj hv
  exact Value.not_refers_leaf (v := .string text) rfl nofun ht

lemma not_refers_novel (t : Artifact) : ¬t.Refers novel :=
  not_refers_of_string fields_novel t

lemma refers_stocked {t : Artifact} (h : t.Refers stocked) : t = novel := by
  obtain ⟨e, he, v, hv, ht⟩ := h
  rw [fields_stocked] at he
  rcases List.mem_pair.1 he with rfl | rfl
  · obtain rfl := Option.some.inj hv
    simpa using ht
  · obtain rfl := Option.some.inj hv
    exact absurd ht (not_refers_rooms t)

lemma impartial_parityAndSize (x : Artifact) : x.Impartial :=
  fun e _ => Predicates.respectful_parityAndSize.impartial e.2.definition

lemma throughout_stocked : stocked.Throughout fun x =>
    x.Storable ∧ x.Impartial ∧ ∃ t ∈ catalog.types, x.Written t := by
  refine .intro ⟨storable_stocked, impartial_parityAndSize stocked, shelfType, by simp [catalog],
    written_stocked⟩ fun t ht => ?_
  obtain rfl := refers_stocked ht
  exact .intro ⟨storable_novel, impartial_parityAndSize novel, bookType, by simp [catalog],
    written_novel⟩ fun u hu => absurd hu (not_refers_novel u)

theorem ofBag_expanded_stocked :
    ∃ b, ofBag catalog stocked.expanded = .ok b ∧ b.ReadsAs stocked :=
  ofBag_expanded registered throughout_stocked

end Sample

namespace Sample

open Definition

@[reducible]
def unsealed [ArtifactPredicates] : Predicates Artifact where
  accepts _ v := v.artifact?.any fun a => !a.isReadOnly "motto"

attribute [local instance] ArtifactPredicates.owned unsealed

def crest : Descriptor where
  name := "Crest"
  version := "1.0.0"
  attributes := [("motto", ((scalar .string).apply .readonly).apply (.default (.string "none")))]

def shield : Descriptor where
  name := "Shield"
  version := "1.0.0"
  attributes := [("crest", relation.apply (.validator "open" "Crest is sealed" "unsealed"))]

def crestType : ArtifactType :=
  crest.declare.toOption.get rfl

def shieldType : ArtifactType :=
  shield.declare.toOption.get rfl

def heraldry : Catalog :=
  ⟨[crestType, shieldType]⟩

lemma registered_heraldry : heraldry.Registered := by
  have hcrest : crestType.Declared := by
    refine .declare (by simp [crest]) (fun e he => ?_) (show crest.declare = .ok crestType from rfl)
    obtain rfl := List.mem_singleton.1 he
    exact .facet (.default (.string "none")) (ordered_atom rfl nofun)
      (.facet .readonly trivial (.scalar .string))
  have hshield : shieldType.Declared := by
    refine .declare (by simp [shield]) (fun e he => ?_) (show shield.declare = .ok shieldType from rfl)
    obtain rfl := List.mem_singleton.1 he
    exact .facet (.validator ..) trivial .relation
  exact .register (.register .empty hshield rfl) hcrest rfl

def device : Definition Artifact :=
  (crestType.attributes.lookup "motto").get rfl

def crestOf : Definition Artifact :=
  (shieldType.attributes.lookup "crest").get rfl

def lion : Artifact :=
  (create crestType "c" "crest" "1.0.0" start).toOption.get rfl

def unborne : Artifact :=
  (create shieldType "s" "shield" "1.0.0" start).toOption.get rfl

def borne : Artifact :=
  (unborne.set "crest" (some (.artifact lion))).toOption.get rfl

lemma fields_lion : lion.fields = [("motto", ⟨device, some (.string "none"), false⟩)] := rfl

lemma fields_borne : borne.fields = [("crest", ⟨crestOf, some (.artifact lion), false⟩)] := rfl

lemma written_lion : lion.Written crestType :=
  .create (show create crestType "c" "crest" "1.0.0" start = .ok lion from rfl)

lemma written_borne : borne.Written shieldType := by
  have hu : unborne.Written shieldType :=
    .create (show create shieldType "s" "shield" "1.0.0" start = .ok unborne from rfl)
  refine .set hu (fun w hw => ?_)
    (show unborne.set "crest" (some (.artifact lion)) = .ok borne from rfl)
  obtain rfl := Option.some.inj hw
  exact ordered_atom rfl nofun

lemma storable_lion : lion.Storable :=
  storable_of_string fields_lion (shapeKept_ofKind (.scalar .string))

lemma storable_borne : borne.Storable where
  shapeKept := by
    rw [fields_borne, List.forall_mem_singleton]
    refine forall_within ?_ nofun
    exact ShapeKept.install (v := ⟨"open", .custom "unsealed", "Crest is sealed"⟩)
      (shapeKept_ofKind .relation) (by decide)
  flattenable := nofun
  expressible := nofun
  dotless := nofun
  complete := nofun

lemma not_refers_lion (t : Artifact) : ¬t.Refers lion :=
  not_refers_of_string fields_lion t

lemma refers_borne {t : Artifact} (h : t.Refers borne) : t = lion := by
  obtain ⟨e, he, v, hv, ht⟩ := h
  obtain rfl := List.mem_singleton.1 (fields_borne ▸ he)
  obtain rfl := Option.some.inj hv
  exact Value.refers_artifact.1 ht

/-- The crest was accepted, but the same crest as it is read from a bag is not. -/
theorem borne_refused : heraldry.Registered ∧
    (borne.Throughout fun x => x.Storable ∧ ∃ t ∈ heraldry.types, x.Written t) ∧
    unborne.set "crest" (some (.artifact lion)) = .ok borne ∧
    ofBag heraldry borne.expanded =
      .error (.validation ⟨"crest", .rule "Crest is sealed", some (.str "c")⟩) := by
  refine ⟨registered_heraldry, ?_, rfl, rfl⟩
  refine .intro ⟨storable_borne, shieldType, by simp [heraldry], written_borne⟩ fun t ht => ?_
  obtain rfl := refers_borne ht
  exact .intro ⟨storable_lion, crestType, by simp [heraldry], written_lion⟩ fun u hu =>
    absurd hu (not_refers_lion u)

end Sample

end TypedArtifacts.Artifact
