import TypedArtifacts.Proofs.Artifact.Canonical
import TypedArtifacts.Proofs.Artifact.References
import TypedArtifacts.Proofs.Artifact.Reread
import TypedArtifacts.Proofs.Store.Expansion

namespace TypedArtifacts

namespace Bag

variable {b y : Bag}

lemma sizeOf_entry (h : .expanded y ∈ b.entries) : sizeOf y < sizeOf b := by
  obtain ⟨name, es, hm, he⟩ := mem_entries.1 h
  have hentry := List.sizeOf_lt_of_mem he
  have hentries := List.sizeOf_lt_of_mem hm
  obtain ⟨header, typeName, typeVersion, properties, blobs, dependencies⟩ := b
  simp only [DependencyEntry.expanded.sizeOf_spec, Prod.mk.sizeOf_spec, mk.sizeOf_spec]
    at hentry hentries ⊢
  omega

theorem induction {P : Bag → Prop} (h : ∀ b, (∀ y, .expanded y ∈ b.entries → P y) → P b)
    (b : Bag) : P b :=
  h b fun y _ => induction h y
  termination_by sizeOf b
  decreasing_by exact sizeOf_entry ‹_›

inductive Unexpanded : Bag → Prop
  | direct {b : Bag} {id : String} : .id id ∈ b.entries → Unexpanded b
  | nested {b y : Bag} : .expanded y ∈ b.entries → Unexpanded y → Unexpanded b

end Bag

namespace Artifact

section

variable {x : Artifact} {d : Definition Artifact} {items : List (Value Artifact)}
  {w : Value Artifact}

lemma refers_collect (hw : collect d items = some w) (h : w.Refers x) :
    ∃ u ∈ items, u.Refers x := by
  unfold collect at hw
  split at hw
  · obtain rfl := Option.some.inj hw
    exact Value.refers_list.1 h
  · exact ⟨w, List.mem_of_mem_head? hw, h⟩

lemma not_refers_blobs {bs : List Blob} (hw : collect d (bs.map .blob) = some w) :
    ¬w.Refers x := by
  intro h
  obtain ⟨u, hu, h⟩ := refers_collect hw h
  obtain ⟨b, _, rfl⟩ := List.mem_map.1 hu
  exact Value.not_refers_leaf (v := .blob b) rfl nofun h

lemma mem_of_refers_targets {xs : List Artifact} (hw : collect d (xs.map .artifact) = some w)
    (h : w.Refers x) : x ∈ xs := by
  obtain ⟨u, hu, h⟩ := refers_collect hw h
  obtain ⟨y, hy, rfl⟩ := List.mem_map.1 hu
  exact Value.refers_artifact.1 h ▸ hy

end

section

variable [Predicates Artifact] {c : Catalog} {t : ArtifactType} {a : Artifact} {b : Bag}

lemma storeAll_origin {a b : Artifact} {vs : Values} (h : a.storeAll vs = .ok b)
    {e : String × Field Artifact} (he : e ∈ b.fields) {v : Value Artifact}
    (hv : e.2.value? = some v) :
    (∃ name w, (name, some w) ∈ vs ∧ ∃ d : Definition Artifact, v = d.normalize w) ∨
      ∃ x ∈ a.fields, x.2.value? = some v ∨ x.2.definition.default = some v := by
  induction vs generalizing a with
  | nil =>
    obtain rfl := Except.ok.inj h
    exact Or.inr ⟨e, he, Or.inl hv⟩
  | cons given vs ih =>
    obtain ⟨f, hf, _, h⟩ := storeAll_cons.1 h
    rcases ih h with ⟨name, w, hw, hd⟩ | ⟨x, hx, hshown⟩
    · exact Or.inl ⟨name, w, List.mem_cons_of_mem _ hw, hd⟩
    · have hm := Dict.mem_of_lookup hf
      rcases mem_withField hx with rfl | hx
      · rcases hshown with hshown | hdefault
        · obtain ⟨name, w⟩ := given
          cases w with
          | none => exact Or.inr ⟨_, hm, Or.inr hshown⟩
          | some w =>
            exact Or.inl ⟨name, w, List.mem_cons_self, f.definition, (Option.some.inj hshown).symm⟩
        · exact Or.inr ⟨_, hm, Or.inr hdefault⟩
      · exact Or.inr ⟨x, hx, hshown⟩

omit [Predicates Artifact] in
lemma default_of_new {id : String} {now : Instant} {e : String × Field Artifact}
    (he : e ∈ ((blank t id now).seedDefaults).fields) {v : Value Artifact}
    (hv : e.2.value? = some v ∨ e.2.definition.default = some v) :
    ∃ x ∈ t.attributes, x.2.default = some v := by
  obtain ⟨f, hf, rfl⟩ := List.mem_map.1 he
  obtain ⟨x, hx, rfl⟩ := List.mem_map.1 hf
  rw [Field.value?_materialize] at hv
  exact ⟨x, hx, hv.elim (fun h => h) fun h => h⟩

lemma entries_read {dependencies : List (String × List (DependencyEntry Bag))} {ds : Values}
    {id : String} (h : dependencyValues c t id dependencies = .ok ds)
    {p : String × List (DependencyEntry Bag)} (hp : p ∈ dependencies) {e : DependencyEntry Bag}
    (he : e ∈ p.2) : ∃ y x, e = .expanded y ∧ ofBag c y = .ok x := by
  obtain ⟨_, _, _, _, _, hread, _⟩ := Outcome.exists_right (dependencyValues_eq_ok h) hp
  obtain ⟨x, _, y, hy, hx⟩ := Outcome.exists_right hread he
  exact ⟨y, x, hy, hx⟩

lemma ofBag_ne_ok (h : b.Unexpanded) : ofBag c b ≠ .ok a := by
  induction h generalizing a with
  | direct he =>
    intro ha
    obtain ⟨_, _, _, _, _, _, _, _, hds, _⟩ := ofBag_values ha
    obtain ⟨name, es, hm, he⟩ := Bag.mem_entries.1 he
    obtain ⟨_, _, heq, _⟩ := entries_read hds hm he
    cases heq
  | nested he _ ih =>
    intro ha
    obtain ⟨_, _, _, _, _, _, _, _, hds, _⟩ := ofBag_values ha
    obtain ⟨name, es, hm, he⟩ := Bag.mem_entries.1 he
    obtain ⟨y, x, heq, hx⟩ := entries_read hds hm he
    obtain rfl := DependencyEntry.expanded.inj heq
    exact ih hx

lemma refers_read (h : ofBag c b = .ok a) (hname : c.byName b.typeName (some b.typeVersion) = .ok t)
    {x : Artifact} (hx : x.Refers a) :
    (∃ y, .expanded y ∈ b.entries ∧ ofBag c y = .ok x) ∨
      ∃ e ∈ t.attributes, ∃ v, e.2.default = some v ∧ v.Refers x := by
  obtain ⟨u, ps, bs, ds, z, hu, hps, hbs, hds, hz, rfl⟩ := ofBag_values h
  obtain rfl : t = u := Except.ok.inj (hname.symm.trans hu)
  obtain ⟨e, he, v, hv, hx⟩ := hx
  rcases storeAll_origin (ofValues_ok hz).1 he hv with ⟨name, w, hw, d, rfl⟩ | ⟨f, hf, hshown⟩
  · have hx := Definition.refers_of_normalize hx
    rcases List.mem_append.1 hw with hw | hw
    · rcases List.mem_append.1 hw with hw | hw
      · obtain ⟨l, _, hl⟩ := Outcome.exists_left (Outcome.mapM_eq_ok.1 hps) hw
        obtain ⟨d, _, hl⟩ := Outcome.bind_eq_ok.1 hl
        obtain ⟨v, hv, hl⟩ := Outcome.bind_eq_ok.1 hl
        obtain ⟨rfl, rfl⟩ := Prod.mk.inj (Except.ok.inj hl)
        exact absurd hx (Definition.Reads.not_refers ⟨_, _, Outcome.mapError_eq_ok.1 hv⟩ x)
      · obtain ⟨l, _, hl⟩ := Outcome.exists_left (Outcome.mapM_eq_ok.1 hbs) hw
        obtain ⟨d, _, hl⟩ := Outcome.bind_eq_ok.1 hl
        obtain ⟨_, hcollect⟩ := Prod.mk.inj (Except.ok.inj hl)
        exact absurd hx (not_refers_blobs hcollect)
    · obtain ⟨p, hp, d, xs, _, hread, heq⟩ := Outcome.exists_left (dependencyValues_eq_ok hds) hw
      obtain ⟨_, hcollect⟩ := Prod.mk.inj heq
      obtain ⟨entry, hentry, y, rfl, hy⟩ :=
        Outcome.exists_left hread (mem_of_refers_targets hcollect.symm hx)
      exact Or.inl ⟨y, Bag.mem_entries.2 ⟨_, _, hp, hentry⟩, hy⟩
  · obtain ⟨x, hm, hdefault⟩ := default_of_new hf hshown
    exact Or.inr ⟨x, hm, v, hdefault, hx⟩

structure Valid (c : Catalog) (b : Bag) (t : ArtifactType) (a : Artifact) : Prop where
  registered : t ∈ c.types ∧ t.name = b.typeName ∧ t.version = b.typeVersion
  unique : ∀ u ∈ c.types, u.name = b.typeName → u.version = b.typeVersion → u = t
  type : a.type = t.toTypeHeader
  header : a.toHeader = b.toHeader
  canonical : a.Canonical t
  complete : ∀ e ∈ a.definitions, e.2.role = .property → e.2.required = true →
    (a.peek e.1).isSome = true

mutual

inductive ReadFrom (c : Catalog) : Bag → Artifact → Prop
  | intro {b : Bag} {t : ArtifactType} {a : Artifact} : Valid c b t a →
      (∀ x : Artifact, x.Refers a → TargetFrom c b t x) → ReadFrom c b a

/-- Read from an expanded dependency of the bag, or part of a default that the type declares. -/
inductive TargetFrom (c : Catalog) : Bag → ArtifactType → Artifact → Prop
  | entry {b y : Bag} {t : ArtifactType} {x : Artifact} : .expanded y ∈ b.entries →
      ReadFrom c y x → TargetFrom c b t x
  | default {b : Bag} {t : ArtifactType} {x : Artifact} {name : String} {d : Definition Artifact}
      {v : Value Artifact} : (name, d) ∈ t.attributes → d.default = some v → v.Refers x →
      TargetFrom c b t x

end

def OfDeclared (a : Artifact) : Prop :=
  ∃ t : ArtifactType, t.Declared ∧ a.Canonical t

def DefaultsCanonical (c : Catalog) : Prop :=
  ∀ t ∈ c.types, ∀ e ∈ t.attributes, ∀ v, e.2.default = some v →
    ∀ x : Artifact, v.Refers x → x.Throughout OfDeclared

section

variable [ArtifactPredicates]

/-- How a program comes by an artifact: it makes it of a declared type and then acts on it. -/
def Held (a : Artifact) : Prop :=
  ∃ (c : Catalog) (t : ArtifactType) (d : Desk) (actions : List Desk.Action), t.Declared ∧
    d.artifact.Made c t ∧ a = (actions.foldl Desk.perform d).artifact

/-- The types are registered one after another, each with artifacts in its defaults that are held. -/
inductive Grown : Catalog → Prop
  | empty : Grown {}
  | register {c c' : Catalog} {t : ArtifactType} : Grown c → t.Declared →
      (∀ e ∈ t.attributes, ∀ v, e.2.default = some v →
        ∀ x : Artifact, v.Refers x → x.Throughout Held) →
      c.register t = .ok c' → Grown c'

lemma Held.ofDeclared (h : a.Held) : a.OfDeclared := by
  obtain ⟨c, t, d, actions, ht, hmade, rfl⟩ := h
  exact ⟨t, ht, (hmade.canonical ht).steps ht (Desk.steps_run actions d)⟩

lemma Grown.registered (h : Grown c) : c.Registered := by
  induction h with
  | empty => exact .empty
  | register _ ht _ hr ih => exact .register ih ht hr

lemma Grown.defaultsCanonical (h : Grown c) : DefaultsCanonical c := by
  induction h with
  | empty => exact fun t ht => absurd ht List.not_mem_nil
  | register _ _ hheld hr ih =>
    obtain ⟨_, rfl⟩ := Catalog.register_ok hr
    intro t ht
    rcases Catalog.mem_place.1 ht with rfl | ht
    · exact fun e he v hv x hx => (hheld e he v hv x hx).mono fun _ => Held.ofDeclared
    · exact ih t ht

end

lemma ReadFrom.throughout (hc : c.Registered) (hd : DefaultsCanonical c) (h : ReadFrom c b a) :
    a.Throughout OfDeclared := by
  refine @ReadFrom.rec _ c (fun _ a _ => a.Throughout OfDeclared)
    (fun _ t x _ => t ∈ c.types → x.Throughout OfDeclared) ?intro ?entry ?default b a h
  case intro =>
    intro b t a hv _ ih
    obtain ⟨ht, _⟩ := hv.registered
    exact .intro ⟨_, hc.declared _ ht, hv.canonical⟩ fun x hx => ih x hx ht
  case entry =>
    intro _ _ _ _ _ _ ih _
    exact ih
  case default =>
    intro _ _ _ _ _ _ he hv hx ht
    exact hd _ ht _ he _ hv _ hx

lemma valid_ofBag (hc : c.Registered) (h : ofBag c b = .ok a) :
    ∃ t, c.byName b.typeName (some b.typeVersion) = .ok t ∧ Valid c b t a := by
  obtain ⟨t, _, _, _, z, hname, _, _, _, hz, ha⟩ := ofBag_values h
  obtain ⟨ht, htn, htv⟩ := Catalog.mem_of_byName hname
  have hnew : ((blank t b.id b.createdAt).seedDefaults).definitions = t.attributes :=
    ((coherent_blank (hc.declared t ht) b.id b.createdAt).seedDefaults).definitions
  have hs : Dict.Sorted ((blank t b.id b.createdAt).seedDefaults).definitions :=
    hnew ▸ (hc.declared t ht).attributes.1
  obtain ⟨hstored, hrequired⟩ := ofValues_ok hz
  obtain ⟨htype, hdefs, _⟩ := storeAll_peek hs hstored
  refine ⟨t, hname, ⟨ht, htn, htv⟩, fun u hu hun huv => ?_, ?_, header_ofBag h,
    canonical_ofBag (hc.declared t ht) hname h, ?_⟩
  · exact hc.unique u hu t ht (hun.trans htn.symm) (huv.trans htv.symm)
  · rw [ha]
    exact htype
  · have hcomplete := (checkRequired_eq_ok (hdefs ▸ hs)).1 hrequired
    rw [ha]
    exact hcomplete

lemma readFrom_ofBag (hc : c.Registered) (h : ofBag c b = .ok a) : ReadFrom c b a := by
  induction b using Bag.induction generalizing a with
  | h b ih =>
    obtain ⟨t, hname, hv⟩ := valid_ofBag hc h
    refine .intro hv fun x hx => ?_
    rcases refers_read h hname hx with ⟨y, hy, hread⟩ | ⟨e, he, v, hdefault, hx⟩
    · exact .entry hy (ih y hy hread)
    · exact .default he hdefault hx

/-- A bag is refused, as it is if any dependency is left unexpanded, or it is read as an artifact that
is valid in itself and in all that it refers to. What of it comes from defaults is canonical, too, in
a catalog that has `Grown`. -/
theorem ofBag_valid_throughout (hc : c.Registered) (b : Bag) :
    ((∃ fault, ofBag c b = .error fault) ∨ ∃ a, ofBag c b = .ok a ∧ ReadFrom c b a ∧
      (DefaultsCanonical c → a.Throughout OfDeclared)) ∧
    (b.Unexpanded → ∃ fault, ofBag c b = .error fault) := by
  cases h : ofBag c b with
  | error fault => exact ⟨Or.inl ⟨fault, rfl⟩, fun _ => ⟨fault, rfl⟩⟩
  | ok a =>
    have hread := readFrom_ofBag hc h
    exact ⟨Or.inr ⟨a, rfl, hread, fun hd => hread.throughout hc hd⟩, fun hu =>
      absurd h (ofBag_ne_ok hu)⟩

end

namespace Sample

attribute [local instance] Predicates.parityAndSize ArtifactPredicates.owned

def cabinet : Descriptor where
  name := "Cabinet"
  version := "1.0.0"
  attributes := [("first", Definition.relation.apply (.default (.artifact novel)))]

def cabinetType : ArtifactType :=
  cabinet.declare.toOption.get rfl

def household : Catalog :=
  ⟨[bookType, cabinetType, shelfType]⟩

def bareCabinet : Bag :=
  { Bag.ofArtifact ((create cabinetType "c" "cabinet" "1.0.0" start).toOption.get rfl) with
    dependencies := [] }

def decodedCabinet : Artifact :=
  (ofBag household bareCabinet).toOption.get rfl

lemma held_novel : novel.Held := by
  have hbook : bookType.Declared := registered.declared _ (by simp [catalog])
  exact ⟨catalog, bookType, ⟨untitled, fun _ => {}⟩, [.set "title" (some (.string "Emma"))], hbook,
    .create (show create bookType "b" "book" "1.0.0" start = .ok untitled from rfl), rfl⟩

lemma grown_household : Grown household := by
  have hbook : bookType.Declared := registered.declared _ (by simp [catalog])
  have hshelf : shelfType.Declared := registered.declared _ (by simp [catalog])
  have hcabinet : cabinetType.Declared := by
    refine .declare (by simp [cabinet]) (fun e he => ?_) (show cabinet.declare = .ok cabinetType from rfl)
    obtain rfl := List.mem_singleton.1 he
    exact .facet (.default (.artifact novel)) (Definition.ordered_atom rfl (by simp)) .relation
  have hnone : ∀ t ∈ [bookType, shelfType], ∀ e ∈ t.attributes, ∀ v, e.2.default ≠ some v := by
    intro t ht e he v hv
    have hall : ∀ t ∈ [bookType, shelfType], t.attributes.all (·.2.default.isNone) = true := by
      rw [List.forall_mem_cons, List.forall_mem_singleton]
      exact ⟨rfl, rfl⟩
    have hd := List.all_eq_true.1 (hall t ht) e he
    rw [hv] at hd
    cases hd
  refine .register (.register (.register .empty hshelf ?shelf rfl) hcabinet ?cabinet rfl) hbook ?book rfl
  case shelf => exact fun e he v hv => absurd hv (hnone shelfType (by simp) e he v)
  case book => exact fun e he v hv => absurd hv (hnone bookType (by simp) e he v)
  case cabinet =>
    intro e he v hv x hx
    obtain rfl := List.mem_singleton.1 he
    obtain rfl := Option.some.inj hv
    obtain rfl := Value.refers_artifact.1 hx
    exact .intro held_novel fun u hu => absurd hu (not_refers_novel u)

lemma recovers_stocked : Sound.Recovers household stocked.expanded stocked := by
  have hbook : bookType ∈ household.types := by simp [household]
  have hshelf : shelfType ∈ household.types := by simp [household]
  have hc := grown_household.registered
  have hnovel : Sound.Recovers household novel.expanded novel :=
    Sound.recovers ⟨hc.declared _ hbook,
      written_novel.coherent (hc.declared _ hbook), storable_novel⟩
      (impartial_parityAndSize novel) hc hbook fun x hx => absurd hx (not_refers_novel x)
  refine Sound.recovers ⟨hc.declared _ hshelf,
    written_stocked.coherent (hc.declared _ hshelf), storable_stocked⟩
    (impartial_parityAndSize stocked) hc hshelf fun x hx => ?_
  obtain rfl := refers_stocked hx
  exact hnovel

theorem ofBag_valid_throughout_stocked : Grown household ∧ household.Registered ∧
    (∃ a, ofBag household stocked.expanded = .ok a ∧ ReadFrom household stocked.expanded a ∧
      a.Throughout OfDeclared) ∧
    (decodedCabinet.Throughout OfDeclared ∧ novel.Refers decodedCabinet) ∧
    (Bag.ofArtifact stocked).Unexpanded ∧
    ∃ fault, ofBag household (Bag.ofArtifact stocked) = .error fault := by
  have hc := grown_household.registered
  have hd := grown_household.defaultsCanonical
  have hid : (Bag.ofArtifact stocked).Unexpanded := by
    have hentries : (Bag.ofArtifact stocked).entries = [.id "b"] := rfl
    exact .direct (hentries ▸ List.mem_singleton_self _)
  have hcabinet : ofBag household bareCabinet = .ok decodedCabinet := rfl
  have hfirst : novel.Refers decodedCabinet := ⟨_, List.mem_singleton_self _, _, rfl, .self⟩
  obtain ⟨x, hx, _⟩ := recovers_stocked
  obtain ⟨hread, _⟩ := ofBag_valid_throughout hc stocked.expanded
  obtain ⟨hreadCabinet, _⟩ := ofBag_valid_throughout hc bareCabinet
  obtain ⟨_, hrefused⟩ := ofBag_valid_throughout hc (Bag.ofArtifact stocked)
  refine ⟨grown_household, hc, ?_, ⟨?_, hfirst⟩, hid, hrefused hid⟩
  · rcases hread with ⟨fault, hfault⟩ | ⟨a, ha, hvalid, hthroughout⟩
    · cases hx.symm.trans hfault
    · exact ⟨a, ha, hvalid, hthroughout hd⟩
  · rcases hreadCabinet with ⟨fault, hfault⟩ | ⟨a, ha, _, hthroughout⟩
    · cases hcabinet.symm.trans hfault
    · obtain rfl := Except.ok.inj (hcabinet.symm.trans ha)
      exact hthroughout hd

end Sample

end Artifact

end TypedArtifacts
