import TypedArtifacts.Proofs.Artifact.RoundTrip
import TypedArtifacts.Proofs.Definition.Shapely

namespace TypedArtifacts

inductive Value.External {ρ : Type} : Value ρ → Prop
  | artifact (a : ρ) : External (.artifact a)
  | blob (b : Blob) : External (.blob b)

inductive Bag.Lists (b : Bag) (name : String) : Value Artifact → Prop
  | artifact {a : Artifact} {entries : List (DependencyEntry Bag)} :
      (name, entries) ∈ b.dependencies → .id a.id ∈ entries → Lists b name (.artifact a)
  | blob {x : Blob} {blobs : List Blob} : (name, blobs) ∈ b.blobs → x ∈ blobs →
      Lists b name (.blob x)

namespace Definition

variable {ρ : Type} {d p : Definition ρ} {u v : Value ρ}

def ShapeUpheld (d : Definition ρ) (v : Value ρ) : Prop :=
  ∀ p u, Governs p u d v → ¬p.ShapeKept → p.kind.shape.fits u = true

lemma shapely_of_upheld [Referent ρ] [Predicates ρ] (hd : d.Built) (h : d.Accepts v)
    (hv : v.Ordered) (hs : d.ShapeUpheld v) : d.ShapelyThroughout v := by
  intro p u hg
  have hu := h.governed hv hg
  by_cases hp : p.ShapeKept
  · exact hu.shapely (fits_of_valid ((hd.within hg.within).typed_iff.2 hp) hu)
  · exact hu.shapely (hs p u hg hp)

namespace ShapelyThroughout

lemma item {vs : List (Value ρ)} {i : ℕ} (h : d.ShapelyThroughout (.list vs))
    (hp : d.itemAt? i = some p) (hv : vs[i]? = some v) : p.ShapelyThroughout v :=
  fun q u hg => h q u (.item hp hv hg)

lemma entry {es : List (String × Value ρ)} {e : String × Value ρ}
    (h : d.ShapelyThroughout (.dict es)) (hp : d.valueAt? e.1 = some p) (he : e ∈ es) :
    p.ShapelyThroughout e.2 :=
  fun q u hg => h q u (.entry hp he hg)

lemma exists_item {vs : List (Value ρ)} {i : ℕ} (h : d.ShapelyThroughout (.list vs))
    (hi : i < vs.length) : ∃ p, d.itemAt? i = some p := by
  have hwhole := h d _ .whole
  obtain ⟨t, kind⟩ := d
  cases kind with
  | list item => exact ⟨item, rfl⟩
  | tuple items =>
    have hlen := hwhole.arity items vs rfl rfl
    exact ⟨items.get ⟨i, by omega⟩, List.getElem?_eq_getElem _⟩
  | scalar s => cases s <;> cases hwhole.shape
  | _ => cases hwhole.shape

lemma exists_entry {es : List (String × Value ρ)} {e : String × Value ρ}
    (h : d.ShapelyThroughout (.dict es)) (he : e ∈ es) : ∃ p, d.valueAt? e.1 = some p := by
  have hwhole := h d _ .whole
  obtain ⟨t, kind⟩ := d
  cases kind with
  | dict value => exact ⟨value, rfl⟩
  | composite keys => exact Option.isSome_iff_exists.1 (hwhole.declared keys es rfl rfl e he)
  | scalar s => cases s <;> cases hwhole.shape
  | _ => cases hwhole.shape

lemma exists_governs (h : d.ShapelyThroughout v) (hu : u.Within v) : ∃ p, Governs p u d v := by
  induction hu generalizing d with
  | self => exact ⟨d, .whole⟩
  | @child w v hm _ ih =>
    cases v with
    | list vs =>
      obtain ⟨i, hi, hw⟩ := List.getElem_of_mem (show w ∈ vs from hm)
      have hw : vs[i]? = some w := List.getElem?_eq_some_iff.2 ⟨hi, hw⟩
      obtain ⟨q, hq⟩ := h.exists_item hi
      obtain ⟨p, hp⟩ := ih (h.item hq hw)
      exact ⟨p, .item hq hw hp⟩
    | dict es =>
      obtain ⟨e, he, rfl⟩ := List.mem_map.1 hm
      obtain ⟨q, hq⟩ := h.exists_entry he
      obtain ⟨p, hp⟩ := ih (h.entry hq he)
      exact ⟨p, .entry hq he hp⟩
    | _ => cases hm

lemma not_plain (h : d.ShapelyThroughout v) (hu : u.Within v) (hx : u.External) : ¬d.Plain := by
  intro hd
  obtain ⟨p, hg⟩ := h.exists_governs hu
  obtain ⟨hrelation, hblob⟩ := hd p hg.within
  have hfits := (h p u hg).shape
  obtain ⟨t, kind⟩ := p
  cases hx with
  | artifact a =>
    cases kind with
    | relation => cases hrelation
    | scalar s => cases s <;> cases hfits
    | _ => cases hfits
  | blob b =>
    cases kind with
    | blob => cases hblob
    | scalar s => cases s <;> cases hfits
    | _ => cases hfits

end ShapelyThroughout

section

variable {α : Type} {wrap : α → Value Artifact} {kind : Kind (Definition Artifact)}
  {d : Definition Artifact} {v w : Value Artifact} {xs : List α}

lemma wraps_of_shapely (hone : ∀ w, kind.shape.fits w = true → ∃ x, w = wrap x)
    (hl : kind.isList = false) (hd : d.kind = kind ∨ ∃ t, d.kind = .list ⟨t, kind⟩)
    (h : d.ShapelyThroughout v) : ∃ xs, d.Wraps wrap v xs := by
  have hfits := (h d v .whole).shape
  rcases hd with hk | ⟨t, hk⟩
  · rw [hk] at hfits
    obtain ⟨x, rfl⟩ := hone v hfits
    exact ⟨[x], Or.inr ⟨by rw [hk, hl], x, rfl, rfl⟩⟩
  · rw [hk] at hfits
    obtain ⟨vs, rfl⟩ := Shape.eq_list hfits
    have hitem : ∀ i, d.itemAt? i = some ⟨t, kind⟩ := fun i => by simp [itemAt?, hk]
    have hall : ∀ v ∈ vs, ∃ x, v = wrap x := by
      intro v hv
      obtain ⟨i, hi⟩ := List.mem_iff_getElem?.1 hv
      exact hone v (h _ _ (.item (hitem i) hi .whole)).shape
    obtain ⟨xs, rfl⟩ := exists_eq_map hall
    exact ⟨xs, Or.inl ⟨by rw [hk]; rfl, rfl⟩⟩

lemma ShapelyThroughout.wraps_targets (h : d.ShapelyThroughout v) (hd : d.role = .dependency) :
    ∃ ts, d.Wraps .artifact v ts := by
  refine wraps_of_shapely (fun w hw => ?_) rfl (kind_of_dependency hd) h
  exact Shape.eq_artifact hw

lemma ShapelyThroughout.wraps_blobs (h : d.ShapelyThroughout v) (hd : d.role = .blob) :
    ∃ bs, d.Wraps .blob v bs := by
  refine wraps_of_shapely (fun w hw => ?_) rfl (kind_of_blob hd) h
  exact Shape.eq_blob hw

lemma Wraps.eq_of_within (h : d.Wraps wrap v xs) (hc : ∀ x, (wrap x).children = [])
    (hw : w.External) (hin : w.Within v) : ∃ x ∈ xs, w = wrap x := by
  have hone : ∀ x, w.Within (wrap x) → w = wrap x := by
    intro x hx
    generalize hu : wrap x = u at hx ⊢
    cases hx with
    | self => rfl
    | child hm _ =>
      rw [← hu, hc] at hm
      cases hm
  rcases h with ⟨_, rfl⟩ | ⟨_, x, rfl, rfl⟩
  · generalize hu : Value.list (xs.map wrap) = u at hin
    cases hin with
    | self =>
      subst hu
      cases hw
    | child hm hin =>
      subst hu
      obtain ⟨x, hx, rfl⟩ := List.mem_map.1 (show _ ∈ xs.map wrap from hm)
      exact ⟨x, hx, hone x hin⟩
  · exact ⟨x, List.mem_singleton_self _, hone x hin⟩

end

end Definition

namespace Artifact

variable {a : Artifact} {e : String × Field Artifact} {u v : Value Artifact}

lemma lists_of_dependency (he : e ∈ a.fields) (hv : e.2.value? = some v)
    (hrole : e.2.definition.role = .dependency) (h : e.2.definition.ShapelyThroughout v)
    (hu : u.Within v) (hx : u.External) : (Bag.ofArtifact a).Lists e.1 u := by
  obtain ⟨ts, hw⟩ := h.wraps_targets hrole
  obtain ⟨t, ht, rfl⟩ := hw.eq_of_within (fun _ => rfl) hx hu
  have hitems := hw.itemsOf_eq (fun _ _ hl => nomatch hl)
    (fun v => v.artifact?.map fun t => (.id t.id : DependencyEntry Bag)) (fun t => .id t.id)
    fun _ => rfl
  rw [← hv] at hitems
  have hm := List.mem_map_of_mem (f := fun t : Artifact => (.id t.id : DependencyEntry Bag)) ht
  exact .artifact (Sound.mem_selected.2 ⟨e.2, mem_fieldsOf.2 ⟨he, hrole⟩, hitems⟩) hm

lemma lists_of_blob (he : e ∈ a.fields) (hv : e.2.value? = some v)
    (hrole : e.2.definition.role = .blob) (h : e.2.definition.ShapelyThroughout v)
    (hu : u.Within v) (hx : u.External) : (Bag.ofArtifact a).Lists e.1 u := by
  obtain ⟨bs, hw⟩ := h.wraps_blobs hrole
  obtain ⟨b, hb, rfl⟩ := hw.eq_of_within (fun _ => rfl) hx hu
  have hitems := hw.itemsOf_eq (fun _ _ hl => nomatch hl) (·.blob?) id fun _ => rfl
  rw [← hv, List.map_id] at hitems
  exact .blob (Sound.mem_selected.2 ⟨e.2, mem_fieldsOf.2 ⟨he, hrole⟩, hitems⟩) hb

lemma not_lists_of_property (hs : Dict.Sorted a.fields) (he : e ∈ a.fields)
    (hrole : e.2.definition.role = .property) : ¬(Bag.ofArtifact a).Lists e.1 u := by
  have hnone : ∀ {role f}, (e.1, f) ∈ a.fieldsOf role → role = .property := by
    intro role f hf
    obtain ⟨hm, hr⟩ := mem_fieldsOf.1 hf
    have hsame := (Dict.lookup_of_mem hs.nodup hm).symm.trans (Dict.lookup_of_mem hs.nodup he)
    obtain rfl := Option.some.inj hsame
    exact hr.symm.trans hrole
  intro h
  cases h with
  | artifact hm _ =>
    obtain ⟨f, hf, _⟩ := Sound.mem_selected.1 hm
    cases hnone hf
  | blob hm _ =>
    obtain ⟨f, hf, _⟩ := Sound.mem_selected.1 hm
    cases hnone hf

section

variable [Predicates Artifact]

lemma Coherent.shapely {t : ArtifactType} (h : a.Coherent t) (ht : t.Declared) (he : e ∈ a.fields)
    (hv : e.2.value? = some v) (hs : e.2.definition.ShapeUpheld v) :
    e.2.definition.ShapelyThroughout v :=
  Definition.shapely_of_upheld (h.admitted ht he).built
    (Definition.validateAs_iff.1 (h.legal e he v hv).1) ((h.legal e he).ordered hv) hs

/-- A reference or blob anywhere in the value of an attribute is listed under its name exactly if
the attribute is not a property, and there are none in one whose definition knows none. -/
theorem lists_iff [ArtifactPredicates] {c : Catalog} (hc : c.Registered) {t : ArtifactType}
    (ht : t ∈ c.types) (ha : a.Written t) (he : e ∈ a.fields) (hv : e.2.value? = some v)
    (hshape : e.2.definition.ShapeUpheld v) (hu : u.Within v) (hx : u.External) :
    ((Bag.ofArtifact a).Lists e.1 u ↔ e.2.definition.role ≠ .property) ∧
      ¬e.2.definition.Plain := by
  have hd := hc.declared t ht
  have hcoherent := ha.coherent hd
  have hshapely := hcoherent.shapely hd he hv hshape
  refine ⟨⟨fun h hrole => not_lists_of_property (hcoherent.sorted hd) he hrole h, fun hrole => ?_⟩,
    hshapely.not_plain hu hx⟩
  cases hr : e.2.definition.role with
  | property => exact absurd hr hrole
  | dependency => exact lists_of_dependency he hv hr hshapely hu hx
  | blob => exact lists_of_blob he hv hr hshapely hu hx

end

namespace Sample

open Definition

attribute [local instance] Predicates.parityAndSize ArtifactPredicates.owned

theorem lists_stocked : catalog.Registered ∧ shelfType ∈ catalog.types ∧
    stocked.Written shelfType ∧ ("books", stocked.fields[0].2) ∈ stocked.fields ∧
    books.ShapeUpheld (.list [.artifact novel]) ∧
    (Value.artifact novel).Within (.list [.artifact novel]) ∧
    (Bag.ofArtifact stocked).Lists "books" (.artifact novel) := by
  have ht : shelfType ∈ catalog.types := by simp [catalog]
  have he : ("books", stocked.fields[0].2) ∈ stocked.fields := List.mem_cons_self
  have hupheld : books.ShapeUpheld (.list [.artifact novel]) :=
    fun p _ hg hp => absurd (shapeKept_books p hg.within) hp
  have hin : (Value.artifact novel).Within (.list [.artifact novel]) :=
    Value.within_of_mem (List.mem_singleton_self _)
  exact ⟨registered, ht, written_stocked, he, hupheld, hin,
    (lists_iff registered ht written_stocked he rfl hupheld hin (.artifact novel)).1.2 (by decide)⟩

def bundle : Descriptor where
  name := "Bundle"
  version := "1.0.0"
  attributes := [("covers", .dict .blob), ("sources", .tuple [.relation])]

def bundleType : ArtifactType :=
  bundle.declare.toOption.get rfl

def bundles : Catalog :=
  ⟨[bundleType]⟩

lemma registered_bundles : bundles.Registered := by
  have hbundle : bundleType.Declared := by
    refine .declare (by simp [bundle]) (fun e he => ?_)
      (show bundle.declare = .ok bundleType from rfl)
    rcases List.mem_pair.1 he with rfl | rfl
    · exact .dict .blob
    · refine .tuple fun d hd => ?_
      obtain rfl := List.mem_singleton.1 hd
      exact .relation
  exact .register .empty hbundle rfl

def cover : Blob where
  size := 5
  checksum := none
  itemKey := "p.covers"
  locations := [⟨"memory://p.covers", .active⟩]

def covers : Value Artifact :=
  .dict [("front", .blob cover)]

def sources : Value Artifact :=
  .list [.artifact novel]

def unpacked : Artifact :=
  (create bundleType "p" "bundle" "1.0.0" start).toOption.get rfl

def covered : Artifact :=
  (unpacked.set "covers" (some covers)).toOption.get rfl

def packed : Artifact :=
  (covered.set "sources" (some sources)).toOption.get rfl

lemma written_packed : packed.Written bundleType := by
  have hu : unpacked.Written bundleType :=
    .create (show create bundleType "p" "bundle" "1.0.0" start = .ok unpacked from rfl)
  have hc : covered.Written bundleType := by
    refine .set hu (fun w hw => ?_) (show unpacked.set "covers" (some covers) = .ok covered from rfl)
    obtain rfl := Option.some.inj hw
    refine ordered_dict (List.pairwise_singleton _ _) fun e he => ?_
    obtain rfl := List.mem_singleton.1 he
    exact ordered_atom rfl nofun
  refine .set hc (fun w hw => ?_) (show covered.set "sources" (some sources) = .ok packed from rfl)
  obtain rfl := Option.some.inj hw
  refine ordered_list fun v hv => ?_
  obtain rfl := List.mem_singleton.1 hv
  exact ordered_atom rfl nofun

theorem packed_unlisted : (Bag.ofArtifact packed).dependencies = [] ∧
    (Bag.ofArtifact packed).blobs = [] ∧
    ¬∀ (c : Catalog) (t : ArtifactType) (a : Artifact), c.Registered → t ∈ c.types →
      a.Written t → ∀ e ∈ a.fields, ∀ v u : Value Artifact, e.2.value? = some v → u.Within v →
      u.External → ∃ name, (Bag.ofArtifact a).Lists name u := by
  have hblobs : (Bag.ofArtifact packed).blobs = [] := rfl
  refine ⟨rfl, hblobs, fun h => ?_⟩
  obtain ⟨name, hlists⟩ := h bundles bundleType packed registered_bundles (by simp [bundles])
    written_packed ("covers", packed.fields[0].2) List.mem_cons_self covers (.blob cover) rfl
    (Value.within_of_mem (List.mem_singleton_self _)) (.blob cover)
  cases hlists with
  | blob hm _ =>
    rw [hblobs] at hm
    cases hm

end Sample

end Artifact

end TypedArtifacts
