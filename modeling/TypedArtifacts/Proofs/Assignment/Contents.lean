import TypedArtifacts.Proofs.Artifact.Frozen
import TypedArtifacts.Proofs.Assignment.Fresh
import TypedArtifacts.Proofs.Patch.Edit

/-! What blob attributes show of a storage, and what writes do to plain contents. -/

namespace TypedArtifacts

inductive Contents (α : Type) where
  | one (item : Option α)
  | many (items : List α)

namespace Contents

variable {α β : Type}

def items : Contents α → List α
  | one item => item.toList
  | many items => items

def map (f : α → β) : Contents α → Contents β
  | one item => one (item.map f)
  | many items => many (items.map f)

def cleared : Contents α → Contents α
  | one _ => one none
  | many _ => many []

lemma map_cleared (f : α → β) (c : Contents α) : c.cleared.map f = (c.map f).cleared := by
  cases c <;> rfl

lemma map_congr {f g : α → β} {c : Contents α} (h : ∀ a ∈ c.items, f a = g a) :
    c.map f = c.map g := by
  cases c with
  | one item =>
    cases item with
    | none => rfl
    | some a => exact congrArg (fun b => one (some b)) (h a (List.mem_singleton_self a))
  | many items => exact congrArg many (List.map_congr_left h)

end Contents

namespace BlobWrite

variable {α : Type}

inductive Acts : BlobWrite → List α → Contents α → Contents α → Prop
  | set {u : Upload} {a : α} {item : Option α} :
      Acts (.assign (.upload u)) [a] (.one item) (.one (some a))
  | setAll {us : List Upload} {as olds : List α} :
      Acts (.assign (.uploads us)) as (.many olds) (.many as)
  | clear {c : Contents α} : Acts (.assign (.value none)) [] c c.cleared
  | push {u : Upload} {a : α} {as : List α} :
      Acts (.append u) [a] (.many as) (.many (as ++ [a]))
  | insert {index : ℕ} {u : Upload} {a : α} {as : List α} : index ≤ as.length →
      Acts (.insert index u) [a] (.many as) (.many (as.insertIdx index a))
  | overwrite {index : ℕ} {u : Upload} {a : α} {as : List α} : index < as.length →
      Acts (.replace index u) [a] (.many as) (.many (as.set index a))
  | delete {index : ℕ} {as : List α} : index < as.length →
      Acts (.remove index) [] (.many as) (.many (as.eraseIdx index))
  | patchClear {operation : Patch.Operation} {name : String} {c : Contents α} :
      operation.verb = .remove → Patch.Path.parse operation.path = .ok [name] →
      Acts (.patch operation) [] c c.cleared
  | patchDelete {operation : Patch.Operation} {name segment : String} {index : ℕ} {as : List α} :
      operation.verb = .remove → Patch.Path.parse operation.path = .ok [name, segment] →
      Patch.Position as.length false segment index →
      Acts (.patch operation) [] (.many as) (.many (as.eraseIdx index))

variable {w : BlobWrite} {fresh : List α} {c c' c'' : Contents α}

lemma Acts.unique (h : w.Acts fresh c c') (h' : w.Acts fresh c c'') : c' = c'' := by
  cases h with
  | patchClear _ hp =>
    cases h' with
    | patchClear => rfl
    | patchDelete _ hp' => cases hp.symm.trans hp'
  | patchDelete _ hp hi =>
    cases h' with
    | patchClear _ hp' => cases hp.symm.trans hp'
    | patchDelete _ hp' hi' =>
      cases hp.symm.trans hp'
      rw [hi.unique hi']
  | _ =>
    cases h'
    rfl

lemma Acts.map {β : Type} (f : α → β) (h : w.Acts fresh c c') :
    w.Acts (fresh.map f) (c.map f) (c'.map f) := by
  cases h with
  | set => exact .set
  | setAll => exact .setAll
  | clear =>
    rw [Contents.map_cleared]
    exact .clear
  | push =>
    rw [Contents.map, Contents.map, List.map_append]
    exact .push
  | insert hi =>
    rw [Contents.map, Contents.map, List.map_insertIdx]
    exact .insert (by rwa [List.length_map])
  | overwrite hi =>
    rw [Contents.map, Contents.map, List.map_set]
    exact .overwrite (by rwa [List.length_map])
  | delete hi =>
    rw [Contents.map, Contents.map, ← List.eraseIdx_map]
    exact .delete (by rwa [List.length_map])
  | patchClear hv hp =>
    rw [Contents.map_cleared]
    exact .patchClear hv hp
  | patchDelete hv hp hi =>
    rw [Contents.map, Contents.map, ← List.eraseIdx_map]
    exact .patchDelete hv hp (by rwa [List.length_map])

lemma Acts.subperm (h : w.Acts fresh c c') : c'.items.Subperm (fresh ++ c.items) := by
  cases h with
  | set => exact (List.sublist_append_left _ _).subperm
  | setAll => exact (List.sublist_append_left _ _).subperm
  | clear => cases c <;> exact List.nil_subperm
  | push => exact List.perm_append_comm.subperm
  | insert hi => exact (List.perm_insertIdx _ _ hi).subperm
  | @overwrite index _ a as hi =>
    have hset := (List.set_perm_cons_eraseIdx hi a).subperm
    exact hset.trans ((List.eraseIdx_sublist as index).cons_cons a).subperm
  | delete => exact (List.eraseIdx_sublist _ _).subperm
  | patchClear => cases c <;> exact List.nil_subperm
  | patchDelete => exact (List.eraseIdx_sublist _ _).subperm

end BlobWrite

lemma Blob.mem_places_of_active {b : Blob} {place : String} (h : place ∈ b.activeLocations) :
    place ∈ b.places := by
  obtain ⟨l, hl, rfl⟩ := List.mem_map.1 h
  exact List.mem_map_of_mem (List.mem_filter.1 hl).1

namespace Storage

variable {s : Storage} {b : Blob} {data : List UInt8}

def Holds (s : Storage) (b : Blob) (data : List UInt8) : Prop :=
  ∃ place, b.activeLocations = [place] ∧ s.download place = .ok data

def read (s : Storage) (b : Blob) : List UInt8 :=
  (s.downloadFirst (.notFound b.itemKey) b.activeLocations).toOption.getD []

lemma Holds.exists_place (h : s.Holds b data) :
    ∃ place ∈ b.places, b.activeLocations = [place] ∧ s.download place = .ok data := by
  obtain ⟨place, hp, hd⟩ := h
  exact ⟨place, Blob.mem_places_of_active (hp ▸ List.mem_singleton_self place), hp, hd⟩

lemma Holds.downloadFirst (h : s.Holds b data) (e : StorageError) :
    s.downloadFirst e b.activeLocations = .ok data := by
  obtain ⟨place, hp, hd⟩ := h
  rw [hp, Storage.downloadFirst, hd]

lemma Holds.read_eq (h : s.Holds b data) : s.read b = data := by
  rw [read, h.downloadFirst]
  rfl

end Storage

inductive Field.Shows (f : Field Artifact) : Contents Blob → Prop
  | unset : f.definition.kind.isList = false → f.value? = none → Shows f (.one none)
  | one {b : Blob} : f.definition.kind.isList = false → f.value? = some (.blob b) →
      Shows f (.one (some b))
  | empty : f.definition.kind.isList = true → f.value? = none → Shows f (.many [])
  | many {bs : List Blob} : f.definition.kind.isList = true →
      f.value? = some (.list (bs.map .blob)) → Shows f (.many bs)

lemma Field.Shows.blobs {f : Field Artifact} {c : Contents Blob} (h : f.Shows c) :
    f.value?.toList.flatMap Artifact.blobsIn = c.items := by
  cases h with
  | unset _ hv => rw [hv]; rfl
  | one _ hv => rw [hv]; rfl
  | empty _ hv => rw [hv]; rfl
  | @many bs _ hv =>
    have hitems : (bs.map Value.blob : List (Value Artifact)).filterMap (·.blob?) = bs := by
      rw [List.filterMap_map]
      exact List.filterMap_some
    rw [hv, Option.toList_some, List.flatMap_singleton]
    exact hitems

namespace Artifact

variable {a : Artifact} {name : String} {f g : Field Artifact} {c : Contents Blob}

lemma withField_eq (hn : (Dict.keys a.fields).Nodup) (hf : a.fields.lookup name = some f) :
    ∃ before after, a.fields = before ++ (name, f) :: after ∧
      ∀ g, (a.withField name g).fields = before ++ (name, g) :: after := by
  obtain ⟨before, after, hfields, _⟩ := List.lookup_eq_some_iff.1 hf
  rw [hfields, Dict.keys, List.map_append, List.map_cons, List.nodup_middle] at hn
  have hothers : name ∉ (before ++ after).map (·.1) := by
    rw [List.map_append]
    exact (List.nodup_cons.1 hn).1
  refine ⟨before, after, hfields, fun g => ?_⟩
  have hkept : ∀ es : List (String × Field Artifact), (∀ e ∈ es, e ∈ before ++ after) →
      (es.map fun e => if e.1 = name then (e.1, g) else e) = es := by
    intro es hes
    refine (List.map_congr_left fun e he => ?_).trans (List.map_id es)
    have hne : e.1 ≠ name := by
      rintro rfl
      exact hothers (List.mem_map_of_mem (hes e he))
    rw [if_neg hne]
    rfl
  rw [withField, Dict.adjust, hfields, List.map_append, List.map_cons,
    hkept before fun _ => List.mem_append_left _, hkept after fun _ => List.mem_append_right _,
    if_pos rfl]

lemma exists_heldPlaces (hn : (Dict.keys a.fields).Nodup) (hf : a.fields.lookup name = some f)
    (hr : f.definition.role = .blob) : ∃ others,
      a.heldPlaces.Perm ((f.value?.toList.flatMap blobsIn).flatMap (·.places) ++ others) ∧
      ∀ g : Field Artifact, g.definition = f.definition → (a.withField name g).heldPlaces.Perm
        ((g.value?.toList.flatMap blobsIn).flatMap (·.places) ++ others) := by
  obtain ⟨before, after, hfields, hwith⟩ := withField_eq hn hf
  let held (es : List (String × Field Artifact)) : List String :=
    heldPlaces { a with fields := es }
  have hheld : ∀ g : Field Artifact, g.definition.role = .blob →
      (held (before ++ (name, g) :: after)).Perm
        ((g.value?.toList.flatMap blobsIn).flatMap (·.places) ++ (held before ++ held after)) := by
    intro g hg
    have hsplit : held (before ++ (name, g) :: after) = held before ++
        ((g.value?.toList.flatMap blobsIn).flatMap (·.places) ++ held after) := by
      simp only [held, heldPlaces, fieldsOf]
      rw [List.filter_append, List.flatMap_append, List.filter_cons_of_pos (by simpa using hg),
        List.flatMap_cons]
    rw [hsplit]
    exact List.perm_append_comm_assoc _ _ _
  refine ⟨held before ++ held after, ?_, fun g hg => ?_⟩
  · have hall := hheld f hr
    rwa [← hfields] at hall
  · have hall := hheld g (hg ▸ hr)
    rwa [← hwith g] at hall

lemma mem_held_of_shows (hf : a.fields.lookup name = some f) (hr : f.definition.role = .blob)
    (h : f.Shows c) {b : Blob} (hb : b ∈ c.items) {place : String} (hp : place ∈ b.places) :
    place ∈ a.heldPlaces := by
  refine List.mem_flatMap.2 ⟨(name, f), mem_fieldsOf.2 ⟨Dict.mem_of_lookup hf, hr⟩, ?_⟩
  dsimp only
  rw [h.blobs]
  exact List.mem_flatMap.2 ⟨b, hb, hp⟩

end Artifact

namespace Draft

lemma Uploaded.holds {name : String} {us : List Upload} {bs : List Blob} {x y : Draft}
    (h : Uploaded name us bs x y) : List.Forall₂ (fun u b => y.storage.Holds b u.data) us bs := by
  induction h with
  | nil => exact .nil
  | @cons u us b bs x y z hu hrest ih =>
    refine .cons ⟨x.place name (x.storage.issued + 1), ?_, ?_⟩ ih
    · rw [Blob.activeLocations, locations_upload hu]
      rfl
    · have hplaces : b.places = [x.place name (x.storage.issued + 1)] := by
        rw [Blob.places, locations_upload hu]
        rfl
      have hlater : x.place name (x.storage.issued + 1) ∉ bs.flatMap (·.places) := by
        have hnodup := (Uploaded.cons hu hrest).nodup
        rw [List.flatMap_cons, hplaces] at hnodup
        exact (List.nodup_cons.1 hnodup).1
      have hstored : z.storage.objects.lookup (x.place name (x.storage.issued + 1)) =
          some u.data := by
        rw [hrest.lookup hlater, (storage_upload hu).2.2]
        exact Dict.lookup_insert_self _ _ _
      have hserved : Storage.serves (x.place name (x.storage.issued + 1)) = true :=
        Storage.serves_placeOf _
      rw [Storage.download, hserved, hstored]
      rfl

lemma Uploaded.map_read {name : String} {us : List Upload} {bs : List Blob} {x y : Draft}
    (h : Uploaded name us bs x y) : bs.map y.storage.read = us.map (·.data) := by
  have hread : List.Forall₂ (fun b u => y.storage.read b = u.data) bs us :=
    h.holds.flip.imp fun _ _ hb => Storage.Holds.read_eq hb
  rwa [← List.forall₂_eq_eq_eq, List.forall₂_map_left_iff, List.forall₂_map_right_iff]

def contents (name : String) (x : Draft) : Except Fault (Contents (List UInt8)) := do
  let f ← (x.artifact.blobField name).mapError .validation
  if f.definition.kind.isList then
    let size := ((f.value?.bind (·.list?)).getD []).length
    return .many (← (List.range size).mapM fun i => x.artifact.readBlob name (some i) x.storage)
  else if f.value?.isSome then
    return .one (some (← x.artifact.readBlob name none x.storage))
  else
    return .one none

variable {name : String} {x : Draft} {f : Field Artifact} {c : Contents Blob}

lemma contents_eq (hf : x.artifact.fields.lookup name = some f) (hr : f.definition.role = .blob)
    (h : f.Shows c) (hc : ∀ b ∈ c.items, ∃ data, x.storage.Holds b data) :
    x.contents name = .ok (c.map x.storage.read) := by
  have hfield := Artifact.blobField_eq_ok.2 ⟨hf, hr⟩
  have hread : ∀ index b, b ∈ c.items → x.artifact.findBlob name index = .ok b →
      x.artifact.readBlob name index x.storage = .ok (x.storage.read b) := by
    intro index b hb hfind
    obtain ⟨data, hdata⟩ := hc b hb
    simp only [Artifact.readBlob, hfind, Except.mapError, Outcome.ok_bind, hdata.downloadFirst,
      hdata.read_eq]
  rw [contents, hfield]
  simp only [Except.mapError, Outcome.ok_bind]
  cases h with
  | unset hl hv =>
    simp only [hl, hv]
    rfl
  | @one b hl hv =>
    have hfind : x.artifact.findBlob name none = .ok b := by
      simp only [Artifact.findBlob, hfield, Outcome.ok_bind, hv, hl]
      rfl
    simp only [hl, hv, hread none b (List.mem_singleton_self b) hfind]
    rfl
  | empty hl hv =>
    simp only [hl, hv]
    rfl
  | @many bs hl hv =>
    have hitem : ∀ i ∈ List.range bs.length, x.artifact.readBlob name (some i) x.storage =
        .ok (((bs.map x.storage.read)[i]?).getD []) := by
      intro i hi
      have hi' := List.mem_range.1 hi
      have hfind : x.artifact.findBlob name (some i) = .ok bs[i] := by
        simp only [Artifact.findBlob, hfield, Outcome.ok_bind, hv, List.getElem?_map,
          List.getElem?_eq_getElem hi']
        rfl
      rw [hread (some i) bs[i] (List.getElem_mem hi') hfind]
      simp [hi']
    have hall : (List.range bs.length).map (fun i => ((bs.map x.storage.read)[i]?).getD []) =
        bs.map x.storage.read := by
      refine List.ext_getElem (by simp) fun i _ hi => ?_
      rw [List.getElem_map, List.getElem_range, List.getElem?_eq_getElem hi, Option.getD_some]
    simp only [hl, hv, Option.bind_some, Value.list?, Option.getD_some, List.length_map,
      Outcome.mapM_ok hitem, hall]
    rfl

lemma contents_eq_map {s : Storage} (hf : x.artifact.fields.lookup name = some f)
    (hr : f.definition.role = .blob) (h : f.Shows c)
    (hc : ∀ b ∈ c.items, ∃ data, x.storage.Holds b data ∧ s.Holds b data) :
    x.contents name = .ok (c.map s.read) := by
  have hread : ∀ b ∈ c.items, x.storage.read b = s.read b := by
    intro b hb
    obtain ⟨data, hx, hs⟩ := hc b hb
    rw [hx.read_eq, hs.read_eq]
  have hstored : ∀ b ∈ c.items, ∃ data, x.storage.Holds b data := by
    intro b hb
    obtain ⟨data, hx, _⟩ := hc b hb
    exact ⟨data, hx⟩
  rw [contents_eq hf hr h hstored, Contents.map_congr hread]

end Draft

end TypedArtifacts
