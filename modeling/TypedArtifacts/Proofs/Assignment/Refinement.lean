import TypedArtifacts.Proofs.Assignment.Refills

/-! Writes to blob attributes do to what is read of them what they do to plain contents. -/

namespace TypedArtifacts

def Artifact.HasBlobs (name : String) (a : Artifact) : Prop :=
  ∃ f, a.fields.lookup name = some f ∧ f.definition.role = .blob

namespace Draft

/-- Blob attributes have no defaults. Every blob has one active location, where its bytes are, and
all locations are distinct, also from those of uploads to come. -/
structure Sole (x : Draft) : Prop where
  keys : (Dict.keys x.artifact.fields).Nodup
  plain : ∀ name f, x.artifact.fields.lookup name = some f → f.definition.role = .blob →
    f.definition.default = none
  held : ∀ name f, x.artifact.fields.lookup name = some f → f.definition.role = .blob →
    ∃ c, f.Shows c ∧ ∀ b ∈ c.items, ∃ data, x.storage.Holds b data
  distinct : x.artifact.heldPlaces.Nodup
  fresh : ∀ name, x.Fresh name

structure Rewrites (name : String) (us : List Upload) (bs : List Blob) (f : Field Artifact)
    (c c' : Contents Blob) (x y z : Draft) : Prop where
  field : x.artifact.fields.lookup name = some f
  role : f.definition.role = .blob
  before : f.Shows c
  stored : ∀ b ∈ c.items, ∃ data, x.storage.Holds b data
  uploaded : Uploaded name us bs x y
  refills : Artifact.Refills name f c' x.artifact z.artifact
  items : c'.items.Subperm (bs ++ c.items)
  storage : ∃ gone, z.storage = y.storage.discard gone ∧ ∀ p ∈ z.artifact.heldPlaces, p ∉ gone

variable {name : String} {us : List Upload} {bs : List Blob} {f : Field Artifact}
  {c c' : Contents Blob} {x y z : Draft} {b : Blob} {data : List UInt8}

lemma Rewrites.subperm_held (h : Rewrites name us bs f c c' x y z) (hx : x.Sole) :
    z.artifact.heldPlaces.Subperm (bs.flatMap (·.places) ++ x.artifact.heldPlaces) := by
  obtain ⟨others, hbefore, hafter⟩ := Artifact.exists_heldPlaces hx.keys h.field h.role
  obtain ⟨g, hz, hg, hc'⟩ := h.refills
  obtain ⟨kept, hkept, hsub⟩ := h.items
  have hz' := hafter g hg
  rw [← hz, hc'.blobs] at hz'
  rw [h.before.blobs] at hbefore
  have hflat : (c'.items.flatMap (·.places)).Subperm
      (bs.flatMap (·.places) ++ c.items.flatMap (·.places)) := by
    rw [← List.flatMap_append]
    exact (hkept.symm.flatMap_right _).subperm.trans (hsub.flatMap _).subperm
  have hsum := (List.subperm_append_right others).2 hflat
  rw [List.append_assoc] at hsum
  exact hz'.subperm.trans (hsum.trans (hbefore.symm.append_left _).subperm)

lemma Rewrites.holds_of_kept (h : Rewrites name us bs f c c' x y z) (hx : x.Sole)
    (hb : ∀ p ∈ b.places, p ∈ x.artifact.heldPlaces) (hd : x.storage.Holds b data) :
    y.storage.Holds b data := by
  obtain ⟨place, hmem, hp, hd⟩ := hd.exists_place
  have hheld := hb place hmem
  refine ⟨place, hp, ?_⟩
  unfold Storage.download at hd ⊢
  rwa [h.uploaded.lookup (h.uploaded.notMem_of_held (hx.fresh name) hheld)]

lemma Rewrites.holds_of_held (h : Rewrites name us bs f c c' x y z)
    (hb : ∀ p ∈ b.places, p ∈ z.artifact.heldPlaces) (hd : y.storage.Holds b data) :
    z.storage.Holds b data := by
  obtain ⟨place, hmem, hp, hd⟩ := hd.exists_place
  obtain ⟨gone, hstorage, hspared⟩ := h.storage
  have hnot := hspared place (hb place hmem)
  refine ⟨place, hp, ?_⟩
  rw [hstorage, Storage.download_discard]
  exact ⟨fun hfrees => hnot hfrees.2, hd⟩

lemma Rewrites.lookup (h : Rewrites name us bs f c c' x y z) :
    ∃ g, z.artifact.fields.lookup name = some g ∧ g.definition = f.definition ∧ g.Shows c' := by
  obtain ⟨g, hz, hg, hc'⟩ := h.refills
  exact ⟨g, hz ▸ Artifact.lookup_withField h.field g, hg, hc'⟩

lemma Rewrites.lookup_of_ne (h : Rewrites name us bs f c c' x y z) {n : String} (hn : n ≠ name) :
    z.artifact.fields.lookup n = x.artifact.fields.lookup n := by
  obtain ⟨g, hz, _⟩ := h.refills
  exact hz ▸ Artifact.lookup_withField_of_ne hn g

lemma Rewrites.hasBlobs (h : Rewrites name us bs f c c' x y z) {n : String}
    (hn : x.artifact.HasBlobs n) : z.artifact.HasBlobs n := by
  obtain ⟨g, hg, hr⟩ := hn
  by_cases hname : n = name
  · subst hname
    obtain ⟨g', hg', hdefinition, _⟩ := h.lookup
    exact ⟨g', hg', hdefinition ▸ h.role⟩
  · exact ⟨g, (h.lookup_of_ne hname).trans hg, hr⟩

lemma Rewrites.holds (h : Rewrites name us bs f c c' x y z) (hx : x.Sole) (hb : b ∈ c'.items) :
    ∃ data, y.storage.Holds b data ∧ z.storage.Holds b data := by
  obtain ⟨g, hlookup, hg, hc'⟩ := h.lookup
  have hheld : ∀ p ∈ b.places, p ∈ z.artifact.heldPlaces := fun p =>
    Artifact.mem_held_of_shows hlookup (hg ▸ h.role) hc' hb
  have hafter : ∃ data, y.storage.Holds b data := by
    rcases List.mem_append.1 (h.items.subset hb) with hb | hb
    · obtain ⟨u, _, hu⟩ := Outcome.exists_left h.uploaded.holds hb
      exact ⟨u.data, hu⟩
    · obtain ⟨data, hdata⟩ := h.stored b hb
      exact ⟨data, h.holds_of_kept hx (fun p =>
        Artifact.mem_held_of_shows h.field h.role h.before hb) hdata⟩
  obtain ⟨data, hdata⟩ := hafter
  exact ⟨data, hdata, h.holds_of_held hheld hdata⟩

lemma Rewrites.holds_of_ne (h : Rewrites name us bs f c c' x y z) (hx : x.Sole) {n : String}
    (hn : n ≠ name) {g : Field Artifact} {e : Contents Blob}
    (hg : x.artifact.fields.lookup n = some g) (hr : g.definition.role = .blob) (he : g.Shows e)
    (hb : b ∈ e.items) (hd : x.storage.Holds b data) : z.storage.Holds b data := by
  have hg' : z.artifact.fields.lookup n = some g := (h.lookup_of_ne hn).trans hg
  have hkept := h.holds_of_kept hx (fun p => Artifact.mem_held_of_shows hg hr he hb) hd
  exact h.holds_of_held (fun p => Artifact.mem_held_of_shows hg' hr he hb) hkept

lemma Rewrites.fresh (h : Rewrites name us bs f c c' x y z) (hx : x.Sole) (n : String) :
    z.Fresh n := by
  intro m hm
  obtain ⟨gone, hstorage, _⟩ := h.storage
  have hissued : z.storage.issued = x.storage.issued + us.length := by
    rw [hstorage, Storage.issued_discard, h.uploaded.issued]
  have hplace : z.place n m = x.place n m := by
    obtain ⟨g, hz, _⟩ := h.refills
    rw [place, hz]
    rfl
  have hnot : x.place n m ∉ bs.flatMap (·.places) := by
    intro hmem
    rw [h.uploaded.places] at hmem
    obtain ⟨k, _, hk, heq⟩ := exists_number hmem
    have hmk := place_inj heq
    omega
  obtain ⟨hobject, hheld⟩ := hx.fresh n m (by omega)
  rw [hplace]
  constructor
  · rw [hstorage]
    exact Storage.lookup_discard_of_none ((h.uploaded.lookup hnot).trans hobject) gone
  · intro hmem
    rcases List.mem_append.1 ((h.subperm_held hx).subset hmem) with hp | hp
    · exact hnot hp
    · exact hheld hp

lemma Rewrites.sole (h : Rewrites name us bs f c c' x y z) (hx : x.Sole) : z.Sole where
  keys := by
    obtain ⟨g, hz, _⟩ := h.refills
    rw [hz, Artifact.withField, Dict.keys_adjust]
    exact hx.keys
  plain n g hg hr := by
    by_cases hn : n = name
    · subst hn
      obtain ⟨g', hg', hdefinition, _⟩ := h.lookup
      obtain rfl := Option.some.inj (hg.symm.trans hg')
      rw [hdefinition]
      exact hx.plain n f h.field h.role
    · exact hx.plain n g ((h.lookup_of_ne hn).symm.trans hg) hr
  held n g hg hr := by
    by_cases hn : n = name
    · subst hn
      obtain ⟨g', hg', _, hc'⟩ := h.lookup
      obtain rfl := Option.some.inj (hg.symm.trans hg')
      refine ⟨c', hc', fun b hb => ?_⟩
      obtain ⟨data, _, hdata⟩ := h.holds hx hb
      exact ⟨data, hdata⟩
    · have hg' := (h.lookup_of_ne hn).symm.trans hg
      obtain ⟨e, he, hstored⟩ := hx.held n g hg' hr
      refine ⟨e, he, fun b hb => ?_⟩
      obtain ⟨data, hdata⟩ := hstored b hb
      exact ⟨data, h.holds_of_ne hx hn hg' hr he hb hdata⟩
  distinct := by
    obtain ⟨l, hl, hsub⟩ := h.subperm_held hx
    have hdisjoint : (bs.flatMap (·.places)).Disjoint x.artifact.heldPlaces := fun p hp hheld =>
      h.uploaded.notMem_of_held (hx.fresh name) hheld hp
    exact hl.nodup_iff.1 (hsub.nodup (h.uploaded.nodup.append hx.distinct hdisjoint))
  fresh := h.fresh hx

lemma Rewrites.contents (h : Rewrites name us bs f c c' x y z) (hx : x.Sole) :
    x.contents name = .ok (c.map y.storage.read) ∧
      z.contents name = .ok (c'.map y.storage.read) ∧
      bs.map y.storage.read = us.map (·.data) := by
  obtain ⟨g, hlookup, hg, hc'⟩ := h.lookup
  refine ⟨contents_eq_map h.field h.role h.before fun b hb => ?_,
    contents_eq_map hlookup (hg ▸ h.role) hc' fun b hb => ?_, h.uploaded.map_read⟩
  · obtain ⟨data, hdata⟩ := h.stored b hb
    exact ⟨data, hdata, h.holds_of_kept hx (fun p =>
      Artifact.mem_held_of_shows h.field h.role h.before hb) hdata⟩
  · obtain ⟨data, hy, hz⟩ := h.holds hx hb
    exact ⟨data, hz, hy⟩

lemma Rewrites.contents_of_ne (h : Rewrites name us bs f c c' x y z) (hx : x.Sole) {n : String}
    (hn : n ≠ name) : z.contents n = x.contents n := by
  have hfield : z.artifact.blobField n = x.artifact.blobField n := by
    simp only [Artifact.blobField, Artifact.findField, Artifact.field?, h.lookup_of_ne hn]
  cases hb : x.artifact.blobField n with
  | error e =>
    rw [Draft.contents, Draft.contents, hfield, hb]
    rfl
  | ok g =>
    obtain ⟨hg, hr⟩ := Artifact.blobField_eq_ok.1 hb
    obtain ⟨e, he, hstored⟩ := hx.held n g hg hr
    have hkept : ∀ b ∈ e.items, ∃ data, z.storage.Holds b data ∧ x.storage.Holds b data := by
      intro b hb
      obtain ⟨data, hdata⟩ := hstored b hb
      exact ⟨data, h.holds_of_ne hx hn hg hr he hb hdata, hdata⟩
    rw [contents_eq_map ((h.lookup_of_ne hn).trans hg) hr he hkept, contents_eq hg hr he hstored]

end Draft

section

variable [ArtifactPredicates] [Predicates Artifact]

namespace Desk

variable {i : ℕ} {name : String} {above below : List Layer} {d d' : Desk} {f : Field Artifact}
  {c c' : Contents Blob} {w : BlobWrite}

omit [ArtifactPredicates] [Predicates Artifact] in
lemma notMem_gone (hx : (d.draft i).Sole) (hf : d.artifact.fields.lookup name = some f)
    (hr : f.definition.role = .blob) (hshows : f.Shows c) {bs : List Blob}
    (hrefills : Artifact.Refills name f c' d.artifact d'.artifact) (hacts : w.Acts bs c c')
    {place : String} (hp : place ∈ d'.artifact.heldPlaces) :
    place ∉ w.gone name d.artifact d'.artifact := by
  cases hremove : w.isRemove with
  | false => simp [BlobWrite.gone, hremove, unheld, hp]
  | true =>
    cases hacts with
    | @delete index bs hindex =>
      obtain ⟨others, hbefore, hafter⟩ :=
        Artifact.exists_heldPlaces (a := d.artifact) hx.keys hf hr
      obtain ⟨g, hz, hg, hc'⟩ := hrefills
      have hz' := hafter g hg
      rw [← hz, hc'.blobs] at hz'
      rw [hshows.blobs] at hbefore
      have hitem : d.artifact.itemPlaces name index = bs[index].places := by
        have hl : f.definition.kind.isList = true := by cases hshows <;> assumption
        obtain ⟨_, heq, hitems⟩ := hshows.items hl
        obtain rfl := Contents.many.inj heq
        have hpeek : d.artifact.peek name = f.value? := by
          simp [Artifact.peek, Artifact.field?, hf]
        rw [Artifact.itemPlaces, hpeek, hitems, List.getElem?_map,
          List.getElem?_eq_getElem hindex]
        exact List.flatMap_singleton _ _
      have hall : d.artifact.heldPlaces.Perm (bs[index].places ++ d'.artifact.heldPlaces) := by
        have hsplit := ((List.getElem_cons_eraseIdx_perm hindex).symm.flatMap_right
          (·.places)).append_right others
        rw [List.flatMap_cons, List.append_assoc] at hsplit
        exact hbefore.trans (hsplit.trans (hz'.symm.append_left _))
      have hdisjoint := (List.nodup_append.1 (hall.nodup_iff.1 hx.distinct)).2.2
      intro hgone
      have hgone' : place ∈ bs[index].places := by
        rw [← hitem]
        exact hgone
      exact hdisjoint place hgone' place hp rfl
    | _ => cases hremove

lemma rewrites_write (habove : ∀ j, Layer.location j ∉ above)
    (hbelow : ∀ j, Layer.location j ∉ below) (hx : (d.draft i).Sole)
    (hname : d.artifact.HasBlobs name) (hw : w.Known name)
    (h : d.write above i below name w = (d', .ok ())) : ∃ bs f c c' x,
      Draft.Rewrites name w.uploaded bs f c c' (d.draft i) x (d'.draft i) ∧ w.Acts bs c c' := by
  obtain ⟨f, hf, hr⟩ := hname
  obtain ⟨c, hshows, hstored⟩ := hx.held name f hf hr
  have hplain : f.Plain := ⟨hr, hx.plain name f hf hr⟩
  have hok := congrArg Prod.snd h
  obtain ⟨bs, x, c', hu, hrefills, hacts⟩ :=
    refills_write habove hbelow hf hplain hshows hw hok
  obtain ⟨bs', x', hu', hstorage⟩ := leaves_write habove hbelow hf hr hw.addresses hok
  obtain ⟨-, rfl⟩ := hu.unique hu'
  rw [h] at hrefills hstorage
  have hspared : ∀ p ∈ d'.artifact.heldPlaces, p ∉ w.gone name d.artifact d'.artifact :=
    fun p hp => notMem_gone hx hf hr hshows hrefills hacts hp
  exact ⟨bs, f, c, c', x, ⟨hf, hr, hshows, hstored, hu, hrefills, hacts.subperm, _, hstorage,
    hspared⟩, hacts⟩

end Desk

end

abbrev View : Type :=
  String → Except Fault (Contents (List UInt8))

/-- Writes act on what is read as on plain contents, each on that of its own attribute only. -/
inductive View.Follows : List (String × BlobWrite) → View → View → Prop
  | nil {v : View} : Follows [] v v
  | cons {name : String} {w : BlobWrite} {ws : List (String × BlobWrite)} {v v' : View}
      {c c' : Contents (List UInt8)} : v name = .ok c → w.Acts (w.uploaded.map (·.data)) c c' →
      Follows ws (Function.update v name (.ok c')) v' → Follows ((name, w) :: ws) v v'

lemma View.Follows.unique {ws : List (String × BlobWrite)} {v v' v'' : View}
    (h : Follows ws v v') (h' : Follows ws v v'') : v' = v'' := by
  induction h with
  | nil =>
    cases h'
    rfl
  | cons hc hacts _ ih =>
    cases h' with
    | cons hc' hacts' hrest =>
      obtain rfl := Except.ok.inj (hc.symm.trans hc')
      obtain rfl := hacts.unique hacts'
      exact ih hrest

namespace Desk

def view (i : ℕ) (d : Desk) : View :=
  fun name => (d.draft i).contents name

variable [ArtifactPredicates] [Predicates Artifact]

def writeAll (above : List Layer) (i : ℕ) (below : List Layer) :
    List (String × BlobWrite) → Desk → Desk × Except Fault Unit
  | [], d => (d, .ok ())
  | (name, w) :: ws, d =>
    match d.write above i below name w with
    | (d, .ok _) => d.writeAll above i below ws
    | (d, .error e) => (d, .error e)

variable {i : ℕ} {above below : List Layer} {d d' : Desk} {ws : List (String × BlobWrite)}

lemma view_write {name : String} {w : BlobWrite} (habove : ∀ j, Layer.location j ∉ above)
    (hbelow : ∀ j, Layer.location j ∉ below) (hx : (d.draft i).Sole)
    (hname : d.artifact.HasBlobs name) (hw : w.Known name)
    (h : d.write above i below name w = (d', .ok ())) : (d'.draft i).Sole ∧
      (∀ n, d.artifact.HasBlobs n → d'.artifact.HasBlobs n) ∧
      ∃ c c', d.view i name = .ok c ∧ w.Acts (w.uploaded.map (·.data)) c c' ∧
        d'.view i = Function.update (d.view i) name (.ok c') := by
  obtain ⟨bs, f, c, c', x, hrewrites, hacts⟩ := rewrites_write habove hbelow hx hname hw h
  obtain ⟨hbefore, hafter, hfresh⟩ := hrewrites.contents hx
  have hread := hacts.map x.storage.read
  rw [hfresh] at hread
  refine ⟨hrewrites.sole hx, fun n => hrewrites.hasBlobs, _, _, hbefore, hread, ?_⟩
  funext n
  by_cases hn : n = name
  · subst hn
    rw [Function.update_self]
    exact hafter
  · rw [Function.update_of_ne hn]
    exact hrewrites.contents_of_ne hx hn

/-- Writes that all go well do to what can be read of blob attributes what they do to plain byte
strings, and leave every blob with a location of its own. -/
theorem writeAll_follows (habove : ∀ j, Layer.location j ∉ above)
    (hbelow : ∀ j, Layer.location j ∉ below) (hx : (d.draft i).Sole)
    (hws : ∀ e ∈ ws, d.artifact.HasBlobs e.1 ∧ e.2.Known e.1)
    (h : d.writeAll above i below ws = (d', .ok ())) :
    (∀ name, d.artifact.HasBlobs name → ∃ c, d.view i name = .ok c) ∧
      View.Follows ws (d.view i) (d'.view i) ∧ (d'.draft i).Sole := by
  have hreads : ∀ name, d.artifact.HasBlobs name → ∃ c, d.view i name = .ok c := by
    rintro name ⟨f, hf, hr⟩
    obtain ⟨c, hshows, hstored⟩ := hx.held name f hf hr
    exact ⟨_, Draft.contents_eq hf hr hshows hstored⟩
  refine ⟨hreads, ?_⟩
  clear hreads
  induction ws generalizing d with
  | nil =>
    obtain rfl := congrArg Prod.fst h
    exact ⟨.nil, hx⟩
  | cons e ws ih =>
    obtain ⟨name, w⟩ := e
    obtain ⟨hname, hw⟩ := hws (name, w) List.mem_cons_self
    rw [writeAll] at h
    rcases hwrite : d.write above i below name w with ⟨d₁, e | _⟩
    · rw [hwrite] at h
      cases congrArg Prod.snd h
    · rw [hwrite] at h
      obtain ⟨hx₁, hkept, c, c', hc, hacts, hview⟩ :=
        view_write habove hbelow hx hname hw hwrite
      have hws₁ : ∀ e ∈ ws, d₁.artifact.HasBlobs e.1 ∧ e.2.Known e.1 := by
        intro e he
        obtain ⟨hblobs, hknown⟩ := hws e (List.mem_cons_of_mem _ he)
        exact ⟨hkept e.1 hblobs, hknown⟩
      obtain ⟨hfollows, hx'⟩ := ih hx₁ hws₁ h
      exact ⟨.cons hc hacts (hview ▸ hfollows), hx'⟩

end Desk

namespace Artifact.Sample

attribute [local instance] Predicates.parityAndSize ArtifactPredicates.owned

def unprinted : Desk :=
  ⟨blank albumType "a" start, fun _ => {}⟩

def retouched : List (String × BlobWrite) :=
  [("prints", .append ⟨[1], none⟩), ("prints", .insert 0 ⟨[2, 3], none⟩), ("prints", .remove 1)]

lemma sole_unprinted : (unprinted.draft 0).Sole := by
  have hfields : (unprinted.draft 0).artifact.fields = [("prints", Field.blank prints)] := rfl
  have hlookup : ∀ name f, (unprinted.draft 0).artifact.fields.lookup name = some f →
      f = Field.blank prints := by
    intro name f hf
    rw [hfields] at hf
    exact (Prod.mk.inj (List.mem_singleton.1 (Dict.mem_of_lookup hf))).2
  have hheld : (unprinted.draft 0).artifact.heldPlaces = [] := rfl
  refine ⟨?_, ?_, ?_, ?_, ?_⟩
  · rw [hfields]
    exact List.nodup_singleton _
  · intro name f hf _
    rw [hlookup name f hf]
    rfl
  · intro name f hf _
    rw [hlookup name f hf]
    exact ⟨.many [], .empty rfl rfl, nofun⟩
  · rw [hheld]
    exact List.nodup_nil
  · intro name n _
    rw [hheld]
    exact ⟨rfl, List.not_mem_nil⟩

theorem writeAll_follows_prints :
    (∀ j, Layer.location j ∉ [.update []]) ∧ (unprinted.draft 0).Sole ∧
    (∀ e ∈ retouched, unprinted.artifact.HasBlobs e.1 ∧ e.2.Known e.1) ∧
    ∃ d, unprinted.writeAll [.update []] 0 [] retouched = (d, .ok ()) ∧
      View.Follows retouched (unprinted.view 0) (d.view 0) ∧ (d.draft 0).Sole ∧
      d.view 0 "prints" = .ok (.many [[2, 3]]) := by
  have habove : ∀ j, Layer.location j ∉ [.update []] := by simp
  have hbelow : ∀ j, Layer.location j ∉ [] := by simp
  have hname : unprinted.artifact.HasBlobs "prints" := ⟨Field.blank prints, rfl, rfl⟩
  have hws : ∀ e ∈ retouched, unprinted.artifact.HasBlobs e.1 ∧ e.2.Known e.1 := by
    intro e he
    rcases he with _ | ⟨_, _ | ⟨_, _ | ⟨_, h⟩⟩⟩
    · exact ⟨hname, trivial⟩
    · exact ⟨hname, trivial⟩
    · exact ⟨hname, trivial⟩
    · cases h
  have hok : (unprinted.writeAll [.update []] 0 [] retouched).2 = .ok () := rfl
  have hview : (unprinted.writeAll [.update []] 0 [] retouched).1.view 0 "prints" =
      .ok (.many [[2, 3]]) := rfl
  rcases hx : unprinted.writeAll [.update []] 0 [] retouched with ⟨d, r⟩
  rw [hx] at hok hview
  obtain rfl : r = .ok () := hok
  obtain ⟨_, hfollows, hsole⟩ := Desk.writeAll_follows habove hbelow sole_unprinted hws hx
  exact ⟨habove, sole_unprinted, hws, d, rfl, hfollows, hsole, hview⟩

end Artifact.Sample

end TypedArtifacts
