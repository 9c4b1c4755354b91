import TypedArtifacts.Proofs.Rendering.Shape

namespace TypedArtifacts

inductive Value.Mirrors (R : Artifact → Artifact → Prop) : Value Artifact → Value Artifact → Prop
  | same (v : Value Artifact) : Mirrors R v v
  | artifact {a b : Artifact} : R a b → Mirrors R (.artifact a) (.artifact b)
  | list {vs ws : List (Value Artifact)} : vs.length = ws.length →
      (∀ p ∈ vs.zip ws, Mirrors R p.1 p.2) → Mirrors R (.list vs) (.list ws)
  | dict {es fs : List (String × Value Artifact)} : es.length = fs.length →
      (∀ p ∈ es.zip fs, p.1.1 = p.2.1) → (∀ p ∈ es.zip fs, Mirrors R p.1.2 p.2.2) →
      Mirrors R (.dict es) (.dict fs)

namespace Artifact

/-- Artifacts that are the same up to so many steps away, where only ids are. Attributes are so if
they have the same place in a bag and show the same. -/
def Near : ℕ → Artifact → Artifact → Prop
  | 0, a, b => a.id = b.id
  | n + 1, a, b => a.toHeader = b.toHeader ∧ a.type = b.type ∧
      List.Forall₂ (fun e f => e.1 = f.1 ∧ e.2.definition.role = f.2.definition.role ∧
        Option.Rel (Value.Mirrors (Near n)) e.2.value? f.2.value?) a.fields b.fields

lemma Near.id_eq {n : ℕ} {a b : Artifact} (h : Near n a b) : a.id = b.id := by
  cases n with
  | zero => exact h
  | succ n => exact congrArg Header.id h.1

end Artifact

lemma map_eq_map_of_forall₂ {α β γ : Type} {f : α → γ} {g : β → γ} {as : List α} {bs : List β}
    (h : List.Forall₂ (fun a b => f a = g b) as bs) : as.map f = bs.map g := by
  rwa [← List.forall₂_eq_eq_eq, List.forall₂_map_left_iff, List.forall₂_map_right_iff]

lemma forall₂_of_zip {α β : Type} {P : α → β → Prop} {as : List α} {bs : List β}
    (hl : as.length = bs.length) (h : ∀ p ∈ as.zip bs, P p.1 p.2) : List.Forall₂ P as bs :=
  List.forall₂_iff_zip.2 ⟨hl, fun hm => h _ hm⟩

namespace Value.Mirrors

variable {R : Artifact → Artifact → Prop} {v w : Value Artifact}

lemma toJson_eq (hR : ∀ a b, R a b → a.id = b.id) (h : Mirrors R v w) : v.toJson = w.toJson := by
  induction h with
  | same => rfl
  | artifact hab =>
    rw [toJson, toJson]
    exact congrArg Json.str (hR _ _ hab)
  | list hl _ ih =>
    rw [toJson, toJson, itemsToJson_eq, itemsToJson_eq]
    exact congrArg Json.arr (map_eq_map_of_forall₂ (forall₂_of_zip hl ih))
  | dict hl hk _ ih =>
    rw [toJson, toJson, entriesToJson_eq, entriesToJson_eq]
    refine congrArg Json.obj (map_eq_map_of_forall₂ (forall₂_of_zip hl fun p hp => ?_))
    exact Prod.ext (hk p hp) (ih p hp)

lemma blob?_eq (h : Mirrors R v w) : v.blob? = w.blob? := by
  cases h <;> rfl

lemma map_artifact?_eq {α : Type} {f : Artifact → α} (hf : ∀ a b, R a b → f a = f b)
    (h : Mirrors R v w) : v.artifact?.map f = w.artifact?.map f := by
  cases h with
  | artifact hab => exact congrArg some (hf _ _ hab)
  | _ => rfl

end Value.Mirrors

namespace Artifact

variable {a b : Artifact} {n : ℕ} {level : ShowLevel} {base : String} {R : Artifact → Artifact → Prop}
  {v w : Option (Value Artifact)}

lemma ofOption_mirrored (hR : ∀ t u, R t u → t.id = u.id) (h : Option.Rel (Value.Mirrors R) v w) :
    Json.ofOption Value.toJson v = Json.ofOption Value.toJson w := by
  cases h with
  | none => rfl
  | some h => exact h.toJson_eq hR

lemma renderTargets_mirrored {render : Artifact → Json} (hrender : ∀ t u, R t u → render t = render u)
    (h : Option.Rel (Value.Mirrors R) v w) : renderTargets render v = renderTargets render w := by
  cases h with
  | none => rfl
  | some h =>
    cases h with
    | same => rfl
    | artifact hab => exact hrender _ _ hab
    | @list vs ws hl h =>
      have hmaps : vs.map (fun v => v.artifact?.map render) = ws.map fun w => w.artifact?.map render :=
        map_eq_map_of_forall₂ (forall₂_of_zip hl fun p hp => (h p hp).map_artifact?_eq hrender)
      have hone : ∀ vs : List (Value Artifact), (vs.filterMap (·.artifact?)).map render =
          (vs.map fun v => v.artifact?.map render).filterMap id := by
        intro vs
        rw [List.map_filterMap, List.filterMap_map]
        rfl
      rw [renderTargets, renderTargets, hone, hone, hmaps]
    | dict => rfl

lemma renderBlobs_congr (hid : a.id = b.id) (htype : a.type = b.type) (name : String) :
    a.renderBlobs name base v = b.renderBlobs name base v := by
  have hlink : ∀ index, a.downloadLink name index base = b.downloadLink name index base := by
    intro index
    simp only [downloadLink, hid, htype]
  cases v with
  | none => rfl
  | some v => cases v <;> simp [renderBlobs, hlink]

lemma renderBlobs_mirrored (name : String) (h : Option.Rel (Value.Mirrors R) v w) :
    a.renderBlobs name base v = a.renderBlobs name base w := by
  have hlist : ∀ vs : List (Value Artifact), a.renderBlobs name base (some (.list vs)) =
      .arr ((vs.map (·.blob?)).zipIdx.filterMap fun e =>
        e.1.map fun x => renderBlob x (a.downloadLink name (some e.2) base)) := by
    intro vs
    rw [renderBlobs, List.zipIdx_map, List.filterMap_map]
    rfl
  cases h with
  | none => rfl
  | some h =>
    cases h with
    | list hl h =>
      rw [hlist, hlist]
      rw [map_eq_map_of_forall₂ (forall₂_of_zip hl fun p hp => (h p hp).blob?_eq)]
    | _ => rfl

lemma forall₂_fieldsOf {P : String × Field Artifact → String × Field Artifact → Prop}
    (hP : ∀ e f, P e f → e.2.definition.role = f.2.definition.role)
    (h : List.Forall₂ P a.fields b.fields) (role : Role) :
    List.Forall₂ P (a.fieldsOf role) (b.fieldsOf role) := by
  rw [fieldsOf, fieldsOf]
  generalize a.fields = fields, b.fields = fields' at h
  induction h with
  | nil => exact .nil
  | cons he _ ih =>
    rw [List.filter_cons, List.filter_cons, hP _ _ he]
    split
    · exact .cons he ih
    · exact ih

lemma map_fieldsOf_mirrored
    (hfields : List.Forall₂ (fun e f => e.1 = f.1 ∧ e.2.definition.role = f.2.definition.role ∧
      Option.Rel (Value.Mirrors R) e.2.value? f.2.value?) a.fields b.fields)
    {f g : String → Option (Value Artifact) → Json}
    (hfg : ∀ name v w, Option.Rel (Value.Mirrors R) v w → f name v = g name w) (role : Role) :
    (a.fieldsOf role).map (fun e => (e.1, f e.1 e.2.value?)) =
      (b.fieldsOf role).map fun e => (e.1, g e.1 e.2.value?) := by
  have hrole := forall₂_fieldsOf (fun _ _ h => h.2.1) hfields role
  refine map_eq_map_of_forall₂ (hrole.imp fun e e' he => ?_)
  obtain ⟨hname, _, hv⟩ := he
  exact Prod.ext hname (hname ▸ hfg e.1 _ _ hv)

lemma entries_mirrored (hheader : a.toHeader = b.toHeader) (htype : a.type = b.type)
    (hfields : List.Forall₂ (fun e f => e.1 = f.1 ∧ e.2.definition.role = f.2.definition.role ∧
      Option.Rel (Value.Mirrors R) e.2.value? f.2.value?) a.fields b.fields)
    (hR : ∀ t u, R t u → t.id = u.id)
    (htarget : ∀ t u, R t u → renderTarget level base t = renderTarget level base u) :
    a.entries level base = b.entries level base := by
  have hcommon : a.headerFields = b.headerFields := by
    rw [headerFields, headerFields, hheader, htype]
  have hproperties : a.renderProperties = b.renderProperties :=
    map_fieldsOf_mirrored hfields (fun _ _ _ hv => ofOption_mirrored hR hv) .property
  have hdependencies := map_fieldsOf_mirrored hfields
    (fun _ _ _ hv => renderTargets_mirrored htarget hv) .dependency
  have hblob (name : String) (v w : Option (Value Artifact)) (hv : Option.Rel (Value.Mirrors R) v w) :
      a.renderBlobs name base v = b.renderBlobs name base w := by
    rw [renderBlobs_mirrored name hv]
    exact renderBlobs_congr (congrArg Header.id hheader) htype name
  have hblobs := map_fieldsOf_mirrored hfields hblob .blob
  rw [entries, entries, hcommon, hproperties, hdependencies, hblobs]

theorem render_near (level : ShowLevel) (base : String) {a b : Artifact}
    (h : Near (level.reach + 1) a b) : a.render level base = b.render level base := by
  obtain ⟨hheader, htype, hfields⟩ := h
  have hid : ∀ t u : Artifact, Near level.reach t u → t.id = u.id := fun _ _ h => h.id_eq
  rw [render_eq, render_eq, entries_mirrored hheader htype hfields hid]
  intro t u htu
  rw [renderTarget, renderTarget]
  cases hn : level.nested with
  | none => exact congrArg Json.str (hid t u htu)
  | some inner =>
    rw [ShowLevel.reach_of_nested hn] at htu
    exact render_near inner base htu
  termination_by level.rank
  decreasing_by exact ShowLevel.rank_nested hn

/-- Each artifact that a path of dependencies leads to is an object of the level for it as far as the
level reaches, an id one step further and absent from there on. The rest has no say. -/
theorem render_horizon {c : Catalog} [Predicates Artifact] (hc : c.Registered) (level : ShowLevel)
    (base : String) (ha : a.Throughout (OfType c)) :
    (∀ path b, Leads path a b →
      (path.length ≤ level.reach → ∃ fields, (a.render level base).follow path = some (.obj fields) ∧
        b.Shown (level.down path.length) fields) ∧
      (path.length = level.reach + 1 → (a.render level base).follow path = some (.str b.id)) ∧
      (level.reach + 1 < path.length → (a.render level base).follow path = none)) ∧
    ∀ b, Near (level.reach + 1) a b → a.render level base = b.render level base :=
  ⟨fun _ _ hp => follow_render hc hp ha level base, fun _ h => render_near level base h⟩

namespace Sample

attribute [local instance] Predicates.parityAndSize

def page : Descriptor where
  name := "Page"
  version := "1.0.0"
  attributes := [("links", .list .relation), ("text", .scalar .text)]

def pageType : ArtifactType :=
  page.declare.toOption.get rfl

def pages : Catalog :=
  ⟨[pageType]⟩

lemma registered_pages : pages.Registered := by
  have hpage : pageType.Declared := by
    refine .declare (by simp [page]) (fun e he => ?_) (show page.declare = .ok pageType from rfl)
    rcases List.mem_pair.1 he with rfl | rfl
    · exact .list .relation
    · exact .scalar _
  exact .register .empty hpage rfl

def links : Definition Artifact :=
  (pageType.attributes.lookup "links").get rfl

def text : Definition Artifact :=
  (pageType.attributes.lookup "text").get rfl

def pageOn (id : String) (targets : List Artifact) : Artifact :=
  { blank pageType id ⟨0, 0⟩ with
    fields := [("links", ⟨links, some (.list (targets.map .artifact)), false⟩),
      ("text", ⟨text, some (.text id), false⟩)] }

lemma throughout_pageOn {id : String} {targets : List Artifact}
    (h : ∀ t ∈ targets, t.Throughout (OfType pages)) :
    (pageOn id targets).Throughout (OfType pages) := by
  refine .intro ⟨pageType, List.mem_singleton_self _, rfl, rfl⟩ fun t ht => ?_
  obtain ⟨e, he, v, hv, hin⟩ := ht
  rcases List.mem_pair.1 he with rfl | rfl
  · obtain rfl := Option.some.inj hv
    obtain ⟨u, hu, hin⟩ := Value.refers_list.1 hin
    obtain ⟨x, hx, rfl⟩ := List.mem_map.1 hu
    obtain rfl := Value.refers_artifact.1 hin
    exact h _ hx
  · obtain rfl := Option.some.inj hv
    exact absurd hin (Value.not_refers_leaf rfl nofun)

lemma near_pageOn {n : ℕ} (id : String) {t u : Artifact} (h : Near n t u) :
    Near (n + 1) (pageOn id [t]) (pageOn id [u]) := by
  refine ⟨rfl, rfl, .cons ⟨rfl, rfl, .some (.list rfl fun p hp => ?_)⟩
    (.cons ⟨rfl, rfl, .some (.same _)⟩ .nil)⟩
  obtain rfl := List.mem_singleton.1 hp
  exact .artifact h

def row (more : List Artifact) : Artifact :=
  pageOn "a" [pageOn "b" [pageOn "c" [pageOn "d" more]]]

def toThird : List (String × ℕ) :=
  [("links", 0), ("links", 0)]

theorem render_horizon_row : pages.Registered ∧ (row []).Throughout (OfType pages) ∧
    Leads toThird (row []) (pageOn "c" [pageOn "d" []]) ∧
    (∃ fields, ((row []).render .transitive "/artifacts").follow [] = some (.obj fields) ∧
      (row []).Shown .transitive fields ∧ fields.lookup "text" = some (.str "a")) ∧
    (∃ fields, ((row []).render .transitive "/artifacts").follow toThird = some (.obj fields) ∧
      (pageOn "c" [pageOn "d" []]).Shown .none fields ∧
      fields.lookup "id" = some (.str "c") ∧ fields.lookup "type_name" = some (.str "Page") ∧
      fields.lookup "state" = some (.str "creating") ∧ fields.lookup "owner" = some .null ∧
      fields.lookup "tags" = some (.arr []) ∧ "text" ∉ Dict.keys fields) ∧
    ((row []).render .direct "/artifacts").follow toThird = some (.str "c") ∧
    ((row []).render .basic "/artifacts").follow toThird = none ∧
    (row []).render .transitive "/artifacts" =
      (row [pageOn "e" []]).render .transitive "/artifacts" := by
  have hrow : (row []).Throughout (OfType pages) := by
    refine throughout_pageOn (List.forall_mem_singleton.2 (throughout_pageOn
      (List.forall_mem_singleton.2 (throughout_pageOn (List.forall_mem_singleton.2
        (throughout_pageOn nofun))))))
  have hleads : Leads toThird (row []) (pageOn "c" [pageOn "d" []]) :=
    .next List.mem_cons_self rfl (.next List.mem_cons_self rfl (.here _))
  have hnear : Near 3 (row []) (row [pageOn "e" []]) :=
    near_pageOn "a" (near_pageOn "b" (near_pageOn "c" rfl))
  obtain ⟨htransitive, hfar⟩ := render_horizon registered_pages .transitive "/artifacts" hrow
  obtain ⟨hdirect, _⟩ := render_horizon registered_pages .direct "/artifacts" hrow
  obtain ⟨hbasic, _⟩ := render_horizon registered_pages .basic "/artifacts" hrow
  obtain ⟨first, hfirst, hself⟩ := (htransitive _ _ (.here _)).1 (by decide)
  obtain ⟨third, hthird, hshown⟩ := (htransitive _ _ hleads).1 (by decide)
  have htext : first.lookup "text" = some (.str "a") :=
    hself.properties (by decide) ("text", ⟨text, some (.text "a"), false⟩) (List.mem_singleton_self _)
  have hhidden : "text" ∉ Dict.keys third := by
    rw [hshown.keys]
    rintro (h | ⟨f, hf, hl⟩)
    · exact absurd h (by decide)
    · rcases List.mem_pair.1 hf with h | h
      · exact absurd (congrArg Prod.fst h) (show "text" ≠ "links" by decide)
      · obtain ⟨_, rfl⟩ := Prod.mk.inj h
        exact absurd (hl rfl) (by decide)
  have hcommon := hshown.common
  exact ⟨registered_pages, hrow, hleads, ⟨_, hfirst, hself, htext⟩,
    ⟨_, hthird, hshown, hcommon.id, hcommon.typeName, hcommon.state, hcommon.owner, hcommon.tags,
      hhidden⟩,
    (hdirect _ _ hleads).2.1 rfl, (hbasic _ _ hleads).2.2 (by decide), hfar _ hnear⟩

end Sample

end Artifact

end TypedArtifacts
