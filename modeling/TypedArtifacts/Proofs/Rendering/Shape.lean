import TypedArtifacts.Proofs.ArtifactType.Chain
import TypedArtifacts.Proofs.Engine.Moves
import TypedArtifacts.Rendering

namespace TypedArtifacts

namespace ShowLevel

variable {l l' : ShowLevel}

def reach : ShowLevel → ℕ
  | none => 0
  | basic => 0
  | direct => 1
  | transitive => 2

def down : ShowLevel → ℕ → ShowLevel
  | level, 0 => level
  | transitive, 1 => direct
  | _, _ + 1 => none

lemma reach_of_flat (h : l.nested = Option.none) : l.reach = 0 := by
  cases l with
  | none | basic => rfl
  | direct | transitive => cases h

lemma reach_of_nested (h : l.nested = some l') : l.reach = l'.reach + 1 := by
  cases l with
  | none | basic => cases h
  | direct | transitive =>
    cases h
    rfl

lemma down_of_nested (h : l.nested = some l') (n : ℕ) : l.down (n + 1) = l'.down n := by
  cases l with
  | none | basic => cases h
  | direct | transitive =>
    cases h
    cases n <;> simp [down]

end ShowLevel

namespace Json

def contents : Json → List Json
  | null => []
  | arr items => items
  | j => [j]

def follow : List (String × ℕ) → Json → Option Json
  | [], j => some j
  | (name, i) :: path, obj fields => do
    let j ← fields.lookup name
    let target ← j.contents[i]?
    follow path target
  | _ :: _, _ => none

end Json

namespace Artifact

variable {a b t : Artifact} {level : ShowLevel} {base : String}

inductive Leads : List (String × ℕ) → Artifact → Artifact → Prop
  | here (a : Artifact) : Leads [] a a
  | next {name : String} {i : ℕ} {path : List (String × ℕ)} {f : Field Artifact}
      {a t b : Artifact} : (name, f) ∈ a.fieldsOf .dependency → (targets f.value?)[i]? = some t →
      Leads path t b → Leads ((name, i) :: path) a b

lemma refers_of_target {e : String × Field Artifact} (he : e ∈ a.fields)
    (ht : t ∈ targets e.2.value?) : t.Refers a := by
  cases hv : e.2.value? with
  | none =>
    rw [hv] at ht
    cases ht
  | some v =>
    rw [hv] at ht
    refine ⟨e, he, v, hv, ?_⟩
    cases v with
    | artifact u =>
      obtain rfl := List.mem_singleton.1 ht
      exact .self
    | list vs =>
      obtain ⟨u, hu, hs⟩ := List.mem_filterMap.1 ht
      cases u with
      | artifact x =>
        obtain rfl := Option.some.inj hs
        exact Value.within_of_mem hu
      | _ => cases hs
    | _ => cases ht

def renderTarget (level : ShowLevel) (base : String) (t : Artifact) : Json :=
  match level.nested with
  | some inner => t.render inner base
  | none => .str t.id

def entries (level : ShowLevel) (base : String) (a : Artifact) : List (String × Json) :=
  a.headerFields ++ (if ShowLevel.basic.rank ≤ level.rank then a.renderProperties else []) ++
    ((a.fieldsOf .dependency).map fun e => (e.1, renderTargets (renderTarget level base) e.2.value?)) ++
    ((a.fieldsOf .blob).map fun e => (e.1, a.renderBlobs e.1 base e.2.value?))

lemma render_eq (level : ShowLevel) (base : String) (a : Artifact) :
    a.render level base = .obj (Dict.ofList (a.entries level base)) := by
  rw [render]
  cases level <;> rfl

lemma contents_renderTarget : (renderTarget level base t).contents = [renderTarget level base t] := by
  rw [renderTarget]
  cases level.nested with
  | none => rfl
  | some inner =>
    simp only [render_eq]
    rfl

lemma contents_renderTargets (v : Option (Value Artifact)) :
    (renderTargets (renderTarget level base) v).contents =
      (targets v).map (renderTarget level base) := by
  cases v with
  | none => rfl
  | some v =>
    cases v with
    | artifact t => exact contents_renderTarget
    | _ => rfl

lemma arr?_renderTargets (v : Option (Value Artifact)) :
    (renderTargets (renderTarget level base) v).arr?.isSome = true ↔ ∃ vs, v = some (.list vs) := by
  cases v with
  | none => simp [renderTargets, Json.arr?]
  | some v =>
    cases v with
    | artifact t =>
      rw [renderTargets, renderTarget]
      cases level.nested <;> simp [render_eq, Json.arr?]
    | _ => simp [renderTargets, Json.arr?]

def blobItems : Option (Value Artifact) → List Blob
  | some (.blob b) => [b]
  | some (.list vs) => vs.filterMap (·.blob?)
  | _ => []

lemma length_renderBlobs (name : String) (v : Option (Value Artifact)) :
    (a.renderBlobs name base v).contents.length = (blobItems v).length := by
  cases v with
  | none => rfl
  | some v =>
    cases v with
    | list vs =>
      have hfst : vs.zipIdx.map Prod.fst = vs := List.zipIdx_map_fst 0 vs
      simp only [renderBlobs, Json.contents, blobItems, List.length_filterMap_eq_countP,
        Option.isSome_map]
      nth_rewrite 2 [← hfst]
      rw [List.countP_map]
      rfl
    | _ => rfl

lemma arr?_renderBlobs (name : String) (v : Option (Value Artifact)) :
    (a.renderBlobs name base v).arr?.isSome = true ↔ ∃ vs, v = some (.list vs) := by
  cases v with
  | none => simp [renderBlobs, Json.arr?]
  | some v => cases v <;> simp [renderBlobs, renderBlob, Blob.toJson, Json.record, Json.arr?]

structure ShowsHeader (a : Artifact) (fields : List (String × Json)) : Prop where
  id : fields.lookup "id" = some (.str a.id)
  name : fields.lookup "name" = some (.str a.name)
  version : fields.lookup "version" = some (.str a.version)
  typeName : fields.lookup "type_name" = some (.str a.type.name)
  typeVersion : fields.lookup "type_version" = some (.str a.type.version)
  visibility : fields.lookup "visibility" = some (.str a.visibility.name)
  state : fields.lookup "state" = some (.str a.state.name)
  owner : fields.lookup "owner" = some (a.owner.elim .null .str)
  createdAt : fields.lookup "created_at" = some (.str a.createdAt.micros)
  updatedAt : fields.lookup "updated_at" = some (.str a.updatedAt.micros)
  publishedAt : fields.lookup "published_at" = some (a.publishedAt.elim .null (.str ·.micros))
  deletedAt : fields.lookup "deleted_at" = some (a.deletedAt.elim .null (.str ·.micros))
  tags : fields.lookup "tags" = some (.arr (a.tags.map .str))
  description : fields.lookup "description" = some (a.description.elim .null .str)

/-- An object that shows an artifact at a level: each entry once, the common fields, dependencies and
blobs in any case and properties from the basic level on. -/
structure Shown (level : ShowLevel) (a : Artifact) (fields : List (String × Json)) : Prop where
  sorted : Dict.Sorted fields
  keys : ∀ key, key ∈ Dict.keys fields ↔ key ∈ Descriptor.commonFields ∨
    ∃ f, (key, f) ∈ a.fields ∧
      (f.definition.role = .property → ShowLevel.basic.rank ≤ level.rank)
  common : a.ShowsHeader fields
  properties : ShowLevel.basic.rank ≤ level.rank → ∀ e ∈ a.fieldsOf .property,
    fields.lookup e.1 = some (e.2.value?.elim .null Value.toJson)
  dependencies : ∀ e ∈ a.fieldsOf .dependency, ∃ j, fields.lookup e.1 = some j ∧
    j.contents.length = (targets e.2.value?).length ∧
    (j.arr?.isSome = true ↔ ∃ vs, e.2.value? = some (.list vs))
  blobs : ∀ e ∈ a.fieldsOf .blob, ∃ j, fields.lookup e.1 = some j ∧
    j.contents.length = (blobItems e.2.value?).length ∧
    (j.arr?.isSome = true ↔ ∃ vs, e.2.value? = some (.list vs))

lemma keys_headerFields (a : Artifact) :
    (Dict.keys a.headerFields).Perm Descriptor.commonFields := by
  have hkeys : Dict.keys a.headerFields = ["id", "name", "version", "visibility", "state", "owner",
      "created_at", "updated_at", "published_at", "deleted_at", "tags", "description", "type_name",
      "type_version"] := rfl
  rw [hkeys]
  decide

lemma keys_entries (level : ShowLevel) (base : String) (a : Artifact) :
    Dict.keys (a.entries level base) = Dict.keys a.headerFields ++
      (if ShowLevel.basic.rank ≤ level.rank then Dict.keys (a.fieldsOf .property) else []) ++
      Dict.keys (a.fieldsOf .dependency) ++ Dict.keys (a.fieldsOf .blob) := by
  rw [entries]
  split <;> simp [Dict.keys, renderProperties, Function.comp_def]

lemma mem_keys_fieldsOf {role : Role} {key : String} :
    key ∈ Dict.keys (a.fieldsOf role) ↔ ∃ f, (key, f) ∈ a.fields ∧ f.definition.role = role := by
  constructor
  · intro h
    obtain ⟨⟨_, f⟩, he, rfl⟩ := List.mem_map.1 h
    exact ⟨f, mem_fieldsOf.1 he⟩
  · rintro ⟨f, hf⟩
    exact Dict.mem_keys_of_mem (mem_fieldsOf.2 hf)

lemma mem_keys_entries {key : String} : key ∈ Dict.keys (a.entries level base) ↔
    key ∈ Descriptor.commonFields ∨ ∃ f, (key, f) ∈ a.fields ∧
      (f.definition.role = .property → ShowLevel.basic.rank ≤ level.rank) := by
  have hproperties : key ∈ (if ShowLevel.basic.rank ≤ level.rank then
      Dict.keys (a.fieldsOf .property) else []) ↔ ShowLevel.basic.rank ≤ level.rank ∧
        ∃ f, (key, f) ∈ a.fields ∧ f.definition.role = .property := by
    rw [← mem_keys_fieldsOf]
    split <;> simp [*]
  rw [keys_entries, List.mem_append, List.mem_append, List.mem_append, hproperties,
    a.keys_headerFields.mem_iff, mem_keys_fieldsOf, mem_keys_fieldsOf]
  constructor
  · rintro (((h | ⟨hl, f, hf, hr⟩) | ⟨f, hf, hr⟩) | ⟨f, hf, hr⟩)
    · exact Or.inl h
    · exact Or.inr ⟨f, hf, fun _ => hl⟩
    · exact Or.inr ⟨f, hf, fun h => by rw [hr] at h; cases h⟩
    · exact Or.inr ⟨f, hf, fun h => by rw [hr] at h; cases h⟩
  · rintro (h | ⟨f, hf, hl⟩)
    · exact Or.inl (Or.inl (Or.inl h))
    · cases hr : f.definition.role with
      | property => exact Or.inl (Or.inl (Or.inr ⟨hl hr, f, hf, hr⟩))
      | dependency => exact Or.inl (Or.inr ⟨f, hf, hr⟩)
      | blob => exact Or.inr ⟨f, hf, hr⟩

structure Named (a : Artifact) : Prop where
  sorted : Dict.Sorted a.fields
  free : ∀ e ∈ a.fields, e.1 ∉ Descriptor.commonFields

lemma OfType.named {c : Catalog} [Predicates Artifact] (hc : c.Registered) (h : a.OfType c) :
    a.Named := by
  refine ⟨h.sorted hc, fun e he => ?_⟩
  obtain ⟨t, ht, _, hd⟩ := h
  have hm : (e.1, e.2.definition) ∈ t.attributes := hd ▸ List.mem_map_of_mem he
  exact ((hc.declared t ht).names _ hm).2.1

lemma Named.disjoint (h : a.Named) {role role' : Role} (hr : role ≠ role') :
    (Dict.keys (a.fieldsOf role)).Disjoint (Dict.keys (a.fieldsOf role')) := by
  intro key hk hk'
  obtain ⟨f, hf, rfl⟩ := mem_keys_fieldsOf.1 hk
  obtain ⟨g, hg, rfl⟩ := mem_keys_fieldsOf.1 hk'
  have hsame := (Dict.lookup_of_mem h.sorted.nodup hf).symm.trans
    (Dict.lookup_of_mem h.sorted.nodup hg)
  exact hr (by rw [Option.some.inj hsame])

lemma Named.nodup_fieldsOf (h : a.Named) (role : Role) : (Dict.keys (a.fieldsOf role)).Nodup :=
  h.sorted.nodup.sublist (List.filter_sublist.map _)

lemma Named.disjoint_common (h : a.Named) (role : Role) :
    (Dict.keys a.headerFields).Disjoint (Dict.keys (a.fieldsOf role)) := by
  intro key hk hk'
  obtain ⟨f, hf, _⟩ := mem_keys_fieldsOf.1 hk'
  exact h.free _ hf (a.keys_headerFields.mem_iff.1 hk)

lemma Named.nodup_entries (h : a.Named) (level : ShowLevel) (base : String) :
    (Dict.keys (a.entries level base)).Nodup := by
  have hcommon : (Dict.keys a.headerFields).Nodup := a.keys_headerFields.nodup_iff.2 (by decide)
  have hsub : ∀ key ∈ (if ShowLevel.basic.rank ≤ level.rank then
      Dict.keys (a.fieldsOf .property) else []), key ∈ Dict.keys (a.fieldsOf .property) := by
    split <;> simp
  have hproperties : (if ShowLevel.basic.rank ≤ level.rank then
      Dict.keys (a.fieldsOf .property) else []).Nodup := by
    split
    · exact h.nodup_fieldsOf .property
    · exact List.nodup_nil
  rw [keys_entries]
  refine (((hcommon.append hproperties ?_).append (h.nodup_fieldsOf .dependency) ?_).append
    (h.nodup_fieldsOf .blob) ?_)
  · exact fun key hk hp => h.disjoint_common .property hk (hsub key hp)
  · intro key hk hd
    rcases List.mem_append.1 hk with hk | hk
    · exact h.disjoint_common .dependency hk hd
    · exact h.disjoint (by decide) (hsub key hk) hd
  · intro key hk hb
    rcases List.mem_append.1 hk with hk | hk
    · rcases List.mem_append.1 hk with hk | hk
      · exact h.disjoint_common .blob hk hb
      · exact h.disjoint (by decide) (hsub key hk) hb
    · exact h.disjoint (by decide) hk hb

lemma Named.mem_fields (h : a.Named) {e : String × Json} :
    e ∈ Dict.ofList (a.entries level base) ↔ e ∈ a.entries level base :=
  (Dict.ofList_perm (h.nodup_entries level base)).mem_iff

lemma mem_entries_of_dependency {e : String × Field Artifact} (he : e ∈ a.fieldsOf .dependency) :
    (e.1, renderTargets (renderTarget level base) e.2.value?) ∈ a.entries level base := by
  refine List.mem_append_left _ (List.mem_append_right _ ?_)
  exact List.mem_map_of_mem (f := fun e : String × Field Artifact =>
    (e.1, renderTargets (renderTarget level base) e.2.value?)) he

lemma mem_entries_of_blob {e : String × Field Artifact} (he : e ∈ a.fieldsOf .blob) :
    (e.1, a.renderBlobs e.1 base e.2.value?) ∈ a.entries level base :=
  List.mem_append_right _ (List.mem_map_of_mem
    (f := fun e : String × Field Artifact => (e.1, a.renderBlobs e.1 base e.2.value?)) he)

lemma mem_entries_of_header {e : String × Json} (he : e ∈ a.headerFields) :
    e ∈ a.entries level base := by
  simp [entries, he]

lemma mem_entries_of_property (hl : ShowLevel.basic.rank ≤ level.rank)
    {e : String × Field Artifact} (he : e ∈ a.fieldsOf .property) :
    (e.1, Json.ofOption Value.toJson e.2.value?) ∈ a.entries level base := by
  have hm : (e.1, Json.ofOption Value.toJson e.2.value?) ∈ a.renderProperties :=
    List.mem_map_of_mem (f := fun e : String × Field Artifact =>
      (e.1, Json.ofOption Value.toJson e.2.value?)) he
  simp [entries, hl, hm]

lemma Named.lookup_of_mem (h : a.Named) {key : String} {j : Json}
    (hj : (key, j) ∈ a.entries level base) :
    (Dict.ofList (a.entries level base)).lookup key = some j :=
  Dict.lookup_of_mem (Dict.sorted_ofList _).nodup (h.mem_fields.2 hj)

lemma ofOption_eq_elim {α : Type} (f : α → Json) (o : Option α) :
    Json.ofOption f o = o.elim .null f := by
  cases o <;> rfl

lemma Named.showsHeader (h : a.Named) (level : ShowLevel) (base : String) :
    a.ShowsHeader (Dict.ofList (a.entries level base)) := by
  have hmem : ∀ {key j}, (key, j) ∈ a.headerFields →
      (Dict.ofList (a.entries level base)).lookup key = some j := fun hj =>
    h.lookup_of_mem (mem_entries_of_header hj)
  constructor <;> apply hmem <;>
    simp [headerFields, Header.toFields, Json.ofStrings, ofOption_eq_elim]

lemma Named.shown (h : a.Named) (level : ShowLevel) (base : String) :
    a.Shown level (Dict.ofList (a.entries level base)) where
  sorted := Dict.sorted_ofList _
  keys key := Dict.mem_keys_ofList.trans mem_keys_entries
  common := h.showsHeader level base
  properties hl e he := by
    rw [h.lookup_of_mem (mem_entries_of_property hl he), ofOption_eq_elim]
  dependencies e he := by
    refine ⟨_, h.lookup_of_mem (mem_entries_of_dependency he), ?_, arr?_renderTargets _⟩
    rw [contents_renderTargets, List.length_map]
  blobs e he :=
    ⟨_, h.lookup_of_mem (mem_entries_of_blob he), length_renderBlobs e.1 _, arr?_renderBlobs e.1 _⟩

lemma Named.follow_render (h : a.Named) (level : ShowLevel) (base : String) {name : String}
    {f : Field Artifact} {i : ℕ} (hf : (name, f) ∈ a.fieldsOf .dependency)
    (ht : (targets f.value?)[i]? = some t) (path : List (String × ℕ)) :
    (a.render level base).follow ((name, i) :: path) = (renderTarget level base t).follow path := by
  have hlookup : (Dict.ofList (a.entries level base)).lookup name =
      some (renderTargets (renderTarget level base) f.value?) :=
    h.lookup_of_mem (mem_entries_of_dependency hf)
  have hi : (renderTargets (renderTarget level base) f.value?).contents[i]? =
      some (renderTarget level base t) := by
    rw [contents_renderTargets, List.getElem?_map, ht]
    rfl
  rw [render_eq, Json.follow, hlookup]
  simp only [Option.bind_eq_bind, Option.bind_some, hi]

theorem follow_render {c : Catalog} [Predicates Artifact] (hc : c.Registered)
    {path : List (String × ℕ)} (hp : Leads path a b) (ha : a.Throughout (OfType c))
    (level : ShowLevel) (base : String) :
    (path.length ≤ level.reach → ∃ fields, (a.render level base).follow path = some (.obj fields) ∧
      b.Shown (level.down path.length) fields) ∧
    (path.length = level.reach + 1 → (a.render level base).follow path = some (.str b.id)) ∧
    (level.reach + 1 < path.length → (a.render level base).follow path = none) := by
  induction hp generalizing level with
  | here a =>
    refine ⟨fun _ => ⟨_, congrArg some (render_eq level base a), (ha.self.named hc).shown level base⟩,
      nofun, nofun⟩
  | @next name i path f a t b hf ht hp ih =>
    have hstep := (ha.self.named hc).follow_render level base hf ht path
    have htarget := ha.target (refers_of_target (mem_fieldsOf.1 hf).1 (List.mem_of_getElem? ht))
    rw [hstep, renderTarget, List.length_cons]
    cases hn : level.nested with
    | some inner =>
      rw [ShowLevel.reach_of_nested hn, ShowLevel.down_of_nested hn]
      simpa using ih htarget inner
    | none =>
      rw [ShowLevel.reach_of_flat hn]
      cases hp with
      | here => exact ⟨nofun, fun _ => rfl, fun h => absurd h (by simp)⟩
      | next => exact ⟨nofun, nofun, fun _ => rfl⟩

end Artifact

end TypedArtifacts
