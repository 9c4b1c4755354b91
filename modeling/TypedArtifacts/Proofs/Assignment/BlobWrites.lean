import TypedArtifacts.Proofs.Artifact.Canonical
import TypedArtifacts.Proofs.Patch

namespace TypedArtifacts

namespace Artifact

def blobPlaces (a : Artifact) : List String :=
  (a.fieldsOf .blob).flatMap fun (_, f) => f.value?.toList.flatMap (·.places)

def attributePlaces (a : Artifact) (name : String) : List String :=
  (a.peek name).toList.flatMap (·.places)

def itemPlaces (a : Artifact) (name : String) (index : ℕ) : List String :=
  (((a.peek name).bind (·.list?)).getD [])[index]?.toList.flatMap (·.places)

def Flat (a : Artifact) : Prop :=
  ∀ e ∈ a.fieldsOf .blob, ∀ v, e.2.value? = some v →
    (∃ b, v = .blob b) ∨ ∃ bs : List Blob, v = .list (bs.map .blob)

lemma blobField_eq_ok {a : Artifact} {name : String} {f : Field Artifact} :
    a.blobField name = .ok f ↔ a.fields.lookup name = some f ∧ f.definition.role = .blob := by
  constructor
  · intro h
    obtain ⟨g, hg, h⟩ := Outcome.bind_eq_ok.1 h
    split at h
    · rename_i hr
      obtain rfl := Except.ok.inj h
      exact ⟨findField_ok hg, hr⟩
    · cases h
  · rintro ⟨hf, hr⟩
    simp only [blobField, findField_of_lookup hf, Outcome.ok_bind, hr, if_true]
    rfl

end Artifact

namespace Draft

def freshObjects (name : String) : List Upload → Draft → List (String × List UInt8)
  | [], _ => []
  | u :: us, x =>
    (Storage.placeOf (x.artifact.id ++ "." ++ name ++ "." ++ x.storage.issue.2), u.data) ::
      freshObjects name us (x.upload name u).1

variable {name : String} {u : Upload} {us : List Upload} {b : Blob} {bs : List Blob} {x y : Draft}

lemma storage_upload (h : x.upload name u = (y, .ok b)) :
    y.storage.deletes = x.storage.deletes ∧ (x.storage.Served → y.storage.Served) ∧
      y.storage.objects = Dict.update x.storage.objects (freshObjects name [u] x) := by
  obtain ⟨rfl, hb⟩ := Prod.mk.inj h
  obtain ⟨r, hr, _⟩ := Outcome.map_eq_ok.1 (Outcome.mapError_eq_ok.1 hb)
  have hserved : x.storage.issue.1.Served → (x.upload name u).1.storage.Served := fun hs =>
    hs.upload _ _ _
  exact ⟨Storage.deletes_upload _ _ _ _, hserved, Storage.objects_upload hr⟩

lemma Uploaded.storage (h : Uploaded name us bs x y) :
    y.storage.deletes = x.storage.deletes ∧ (x.storage.Served → y.storage.Served) ∧
      y.storage.objects = Dict.update x.storage.objects (freshObjects name us x) := by
  induction h with
  | nil => exact ⟨rfl, id, rfl⟩
  | @cons u us _ _ x y _ hu _ ih =>
    obtain ⟨hdeletes, hserved, hobjects⟩ := ih
    obtain ⟨hdeletes', hserved', hobjects'⟩ := storage_upload hu
    refine ⟨hdeletes.trans hdeletes', hserved ∘ hserved', ?_⟩
    have hy : y = (x.upload name u).1 := by rw [hu]
    rw [hobjects, hobjects', hy]
    rfl

end Draft

namespace Desk

def Leaves (i : ℕ) (name : String) (us : List Upload) (gone : List String) (d d' : Desk) : Prop :=
  ∃ bs x, Draft.Uploaded name us bs (d.draft i) x ∧ d'.storages i = x.storage.discard gone

lemma Leaves.lookup {i : ℕ} {name : String} {us : List Upload} {gone : List String} {d d' : Desk}
    (h : Leaves i name us gone d d') (hd : (d.storages i).deletes = true)
    (hs : (d.storages i).Served) (place : String) : (d'.storages i).objects.lookup place =
      if place ∈ gone then none else (Dict.update (d.storages i).objects
        (Draft.freshObjects name us (d.draft i))).lookup place := by
  obtain ⟨bs, x, hx, hstorage⟩ := h
  obtain ⟨hdeletes, hserved, hobjects⟩ := hx.storage
  rw [hstorage, Storage.lookup_discard (hdeletes.trans hd) fun p _ => hserved hs p, hobjects]
  rfl

def unheld (a : Artifact) (places : List String) : List String :=
  places.filter (!a.heldPlaces.contains ·)

lemma leaves_settle {i : ℕ} {name : String} {us : List Upload} {fresh : List Blob}
    {stale : List String} {d : Desk} {x : Draft} {r : Desk × Except Fault Unit}
    (hx : Draft.Uploaded name us fresh (d.draft i) x)
    (hr : r.1.storages = (d.withDraft i x).storages)
    (h : (settle i fresh stale r).2 = .ok ()) :
    Leaves i name us (unheld (settle i fresh stale r).1.artifact stale) d
      (settle i fresh stale r).1 := by
  obtain ⟨d₂, _ | _⟩ := r
  · cases h
  · refine ⟨fresh, x, hx, ?_⟩
    have hr' : d₂.storages i = x.storage := (congrFun hr i).trans (Function.update_self _ _ _)
    simp only [settle, discardUnheld, withDraft, Function.update_self, Draft.discardUnheld,
      Draft.discard, unheld, draft]
    rw [hr']

lemma leaves_assignBlob {i : ℕ} {name : String} {isList : Bool} {input : Input} {d : Desk}
    {write : Option (Value Artifact) → Desk → Desk × Except Fault Unit}
    (hwrite : ∀ v (d : Desk), (write v d).1.storages = d.storages)
    (h : (d.assignBlob i name isList input write).2 = .ok ()) :
    Leaves i name input.uploaded
      (unheld (d.assignBlob i name isList input write).1.artifact
        (d.artifact.attributePlaces name)) d (d.assignBlob i name isList input write).1 := by
  rcases assignBlob_cases i name isList input d write with ⟨x, e, hx, _⟩ | ⟨bs, v, x, hu, _, hx⟩
  · rw [hx] at h
    cases h
  · rw [hx] at h ⊢
    exact leaves_settle hu (hwrite v _) h

end Desk

lemma ListEdit.taken_remove {index : ℕ} {vs ws : List (Value Artifact)}
    {taken : Option (Value Artifact)} (h : (ListEdit.remove index).run vs = .ok (ws, taken)) :
    taken = vs[index]? := by
  simp only [run] at h
  split at h
  · obtain ⟨_, rfl⟩ := Prod.mk.inj (Except.ok.inj h)
    rfl
  · cases h

namespace Draft

variable {name : String} {x : Draft}

lemma storage_settle {written : Except Fault Artifact} {fresh : List Blob} {stale : List String}
    (h : (x.settle written fresh stale).2 = .ok ()) :
    (x.settle written fresh stale).1.storage =
      x.storage.discard (Desk.unheld (x.settle written fresh stale).1.artifact stale) := by
  cases written with
  | error e => cases h
  | ok a => rfl

lemma blobListField_ok {a : Artifact} {f : Field Artifact} (h : a.blobListField name = .ok f) :
    a.peek name = f.value? := by
  obtain ⟨g, hg, h⟩ := Outcome.bind_eq_ok.1 h
  split at h
  · obtain rfl := Except.ok.inj h
    simp [Artifact.peek, Artifact.field?, (Artifact.blobField_eq_ok.1 hg).1]
  · cases h

end Draft

section

variable [ArtifactPredicates] [Predicates Artifact]

namespace Draft

variable {name : String} {u : Upload} {x : Draft}

lemma leaves_uploadItem (edit : Value Artifact → ListEdit) (replaced : Option ℕ)
    (h : (x.uploadItem name edit replaced u).2 = .ok ()) :
    ∃ b y, Uploaded name [u] [b] x y ∧ (x.uploadItem name edit replaced u).1.storage =
      y.storage.discard (Desk.unheld (x.uploadItem name edit replaced u).1.artifact
        (replaced.toList.flatMap (x.artifact.itemPlaces name))) := by
  rcases uploadItem_cases name edit replaced u x with ⟨y, e, hx, _⟩ | ⟨f, b, y, hf, hy, hx⟩
  · rw [hx] at h
    cases h
  · have hstale : (replaced.bind fun i => ((f.value?.bind (·.list?)).getD [])[i]?).toList.flatMap
        Value.places = replaced.toList.flatMap (x.artifact.itemPlaces name) := by
      cases replaced with
      | none => rfl
      | some i => simp [Artifact.itemPlaces, blobListField_ok hf]
    rw [hx] at h ⊢
    refine ⟨b, y, hy, ?_⟩
    rw [← hstale]
    exact storage_settle h

lemma leaves_removeBlob {index : ℕ} (h : (x.removeBlob name index).2 = .ok ()) :
    (x.removeBlob name index).1.storage =
      x.storage.discard (x.artifact.itemPlaces name index) := by
  rw [removeBlob] at h ⊢
  cases hf : x.artifact.blobListField name with
  | error e =>
    rw [hf] at h
    cases h
  | ok f =>
    rw [hf] at h
    dsimp only at h ⊢
    cases he : x.artifact.editList name (.remove index) with
    | error e =>
      rw [he] at h
      cases h
    | ok r =>
      obtain ⟨a, removed⟩ := r
      have hremoved : removed = (((x.artifact.peek name).bind (·.list?)).getD [])[index]? := by
        obtain ⟨g, g', hg, hedit, _⟩ := Artifact.editList_ok he
        obtain ⟨f', hf', rfl⟩ := Artifact.openList_ok hg
        have hitems : (x.artifact.guard name f').items =
            ((x.artifact.peek name).bind (·.list?)).getD [] := by
          simp [Artifact.peek, Artifact.field?, hf', Guard.items, Artifact.guard, Field.materialize]
        obtain ⟨vs, hrun, _⟩ := Guard.editList_ok hedit
        rw [hitems] at hrun
        exact ListEdit.taken_remove hrun
      rw [Artifact.itemPlaces, ← hremoved]
      rfl

end Draft

namespace Desk

variable {i : ℕ} {name : String} {input : Input} {above below : List Layer} {d : Desk}

lemma storages_assign (hbelow : ∀ j, Layer.location j ∉ below) (name : String) (input : Input)
    (d : Desk) : (d.assign below name input).1.storages = d.storages := by
  induction below generalizing input with
  | nil =>
    rw [assign]
    cases d.artifact.assign name input <;> rfl
  | cons layer below ih =>
    have hrest := ih fun j hj => hbelow j (List.mem_cons_of_mem _ hj)
    cases layer with
    | dependency l =>
      rw [assign]
      cases d.artifact.findField name with
      | error e => rfl
      | ok f =>
        dsimp only
        split
        · cases l.resolve d.artifact.id name f.definition.kind.isList input with
          | error e => rfl
          | ok v => exact hrest (.value v)
        · exact hrest input
    | location j => exact absurd List.mem_cons_self (hbelow j)
    | update allowed => exact hrest input

lemma assign_append (habove : ∀ j, Layer.location j ∉ above) {f : Field Artifact}
    (hf : d.artifact.fields.lookup name = some f) (hr : f.definition.role = .blob)
    (rest : List Layer) (input : Input) :
    d.assign (above ++ rest) name input = d.assign rest name input := by
  induction above with
  | nil => rfl
  | cons layer above ih =>
    have hrest := ih fun j hj => habove j (List.mem_cons_of_mem _ hj)
    cases layer with
    | dependency l =>
      rw [List.cons_append, assign, Artifact.findField_of_lookup hf]
      simpa [hr] using hrest
    | location j => exact absurd List.mem_cons_self (habove j)
    | update allowed => exact hrest

lemma leaves_assign (habove : ∀ j, Layer.location j ∉ above)
    (hbelow : ∀ j, Layer.location j ∉ below) {f : Field Artifact}
    (hf : d.artifact.fields.lookup name = some f) (hr : f.definition.role = .blob)
    (h : (d.assign (above ++ .location i :: below) name input).2 = .ok ()) :
    Leaves i name input.uploaded
      (unheld (d.assign (above ++ .location i :: below) name input).1.artifact
        (d.artifact.attributePlaces name)) d
      (d.assign (above ++ .location i :: below) name input).1 := by
  rw [assign_append habove hf hr] at h ⊢
  rw [assign, Artifact.blobField_eq_ok.2 ⟨hf, hr⟩] at h ⊢
  dsimp only at h ⊢
  split at h
  · cases h
  · rename_i hw
    rw [if_neg hw]
    exact leaves_assignBlob (fun v d => storages_assign hbelow name (.value v) d) h

end Desk

end

namespace Value

variable {ρ : Type}

lemma placesOfItems_eq (vs : List (Value ρ)) : placesOfItems vs = vs.flatMap (·.places) := by
  induction vs with
  | nil => rfl
  | cons v vs ih => rw [placesOfItems, ih, List.flatMap_cons]

lemma places_blobs (bs : List Blob) :
    (Value.list (bs.map .blob) : Value ρ).places = bs.flatMap (·.places) := by
  rw [places, placesOfItems_eq, List.flatMap_map]
  rfl

end Value

namespace Artifact

variable {a : Artifact} {place : String}

lemma mem_places_of_blobsIn {v : Value Artifact} (h : place ∈ (blobsIn v).flatMap (·.places)) :
    place ∈ v.places := by
  cases v with
  | blob b => simpa [blobsIn, Value.places] using h
  | list vs =>
    obtain ⟨b, hb, hp⟩ := List.mem_flatMap.1 h
    obtain ⟨v, hv, hb⟩ := List.mem_filterMap.1 hb
    rw [Value.places, Value.placesOfItems_eq]
    refine List.mem_flatMap.2 ⟨v, hv, ?_⟩
    cases v with
    | blob b' =>
      obtain rfl := Option.some.inj hb
      exact hp
    | _ => cases hb
  | _ => simp [blobsIn] at h

lemma blobPlaces_of_held (h : place ∈ a.heldPlaces) : place ∈ a.blobPlaces := by
  obtain ⟨⟨n, f⟩, he, h⟩ := List.mem_flatMap.1 h
  refine List.mem_flatMap.2 ⟨(n, f), he, ?_⟩
  cases hv : f.value? with
  | none => simp [hv] at h
  | some v =>
    have hin : place ∈ (blobsIn v).flatMap (·.places) := by simpa [hv] using h
    simpa [hv] using mem_places_of_blobsIn hin

lemma Flat.held (hflat : a.Flat) (h : place ∈ a.blobPlaces) : place ∈ a.heldPlaces := by
  obtain ⟨⟨n, f⟩, he, h⟩ := List.mem_flatMap.1 h
  refine List.mem_flatMap.2 ⟨(n, f), he, ?_⟩
  cases hv : f.value? with
  | none => simp [hv] at h
  | some v =>
    have hin : place ∈ v.places := by simpa [hv] using h
    rcases hflat (n, f) he v hv with ⟨b, rfl⟩ | ⟨bs, rfl⟩
    · simpa [hv, blobsIn, Value.places] using hin
    · rw [Value.places_blobs] at hin
      simpa [hv, blobsIn, List.filterMap_map, Function.comp_def, Value.blob?] using hin

end Artifact

section

variable [Predicates Artifact]

lemma Definition.blobs_of_valid {d : Definition Artifact} (hd : d.Regular) (hr : d.role = .blob)
    {place : String} {v : Value Artifact} (h : d.validateAs place (some v) = .ok ()) :
    (∃ b, v = .blob b) ∨ ∃ bs : List Blob, v = .list (bs.map .blob) := by
  have hfit := fits_of_valid hd.typed h
  have hparts := (validateAs_some.1 h).2
  rcases kind_of_blob hr with hk | ⟨t, hk⟩
  · rw [hk] at hfit
    exact .inl (Shape.eq_blob hfit)
  · rw [hk] at hfit hparts
    obtain ⟨vs, rfl⟩ := Shape.eq_list hfit
    have hitem : (⟨t, .blob⟩ : Definition Artifact).Regular := hd.part (by simp [parts, hk])
    obtain ⟨bs, rfl⟩ := exists_eq_map fun w hw => by
      obtain ⟨place, hw⟩ := eachItem_ok (by rwa [validateParts] at hparts) w hw
      exact Shape.eq_blob (fits_of_valid hitem.typed hw)
    exact .inr ⟨bs, rfl⟩

def ArtifactType.BlobsShaped (t : ArtifactType) : Prop :=
  ∀ e ∈ t.attributes, e.2.role = .blob → ∀ p : Definition Artifact, p.Within e.2 → p.ShapeKept

lemma Artifact.Canonical.flat {a : Artifact} {t : ArtifactType} (h : a.Canonical t)
    (ht : t.Declared) (hshaped : t.BlobsShaped) : a.Flat := by
  rintro ⟨name, f⟩ he v hv
  obtain ⟨he, hrole⟩ := mem_fieldsOf.1 he
  have hm : (name, f.definition) ∈ t.attributes := h.definitions ▸ List.mem_map_of_mem he
  have hd : f.definition.Regular := ⟨(h.admitted ht he).built, hshaped _ hm hrole⟩
  have hv : f.definition.Canonical v := by
    rcases Option.or_eq_some_iff.1 hv with hv | ⟨_, hv⟩
    · exact h.stored _ he v hv
    · exact h.defaults _ he v hv
  exact Definition.blobs_of_valid hd hrole hv.1

end

inductive BlobWrite where
  | assign (input : Input)
  | append (u : Upload)
  | insert (index : ℕ) (u : Upload)
  | replace (index : ℕ) (u : Upload)
  | remove (index : ℕ)
  | patch (operation : Patch.Operation)

namespace BlobWrite

def uploaded : BlobWrite → List Upload
  | assign input => input.uploaded
  | append u => [u]
  | insert _ u => [u]
  | replace _ u => [u]
  | _ => []

def isRemove : BlobWrite → Bool
  | remove _ => true
  | _ => false

def written (name : String) (a : Artifact) : BlobWrite → List String
  | assign _ => a.attributePlaces name
  | replace index _ => a.itemPlaces name index
  | remove index => a.itemPlaces name index
  | patch _ => a.attributePlaces name
  | _ => []

/-- Other writes pass over places that are held afterwards. -/
def gone (name : String) (before after : Artifact) (w : BlobWrite) : List String :=
  if w.isRemove then w.written name before else Desk.unheld after (w.written name before)

def Addresses (name : String) : BlobWrite → Prop
  | patch operation => ∃ rest, Patch.Path.parse operation.path = .ok (name :: rest)
  | _ => True

end BlobWrite

namespace Desk

def Exact (i : ℕ) (name : String) (w : BlobWrite) (d d' : Desk) : Prop :=
  ∀ place, (d'.storages i).objects.lookup place =
    if place ∈ w.written name d.artifact ∧ place ∉ d'.artifact.blobPlaces then none
    else (Dict.update (d.storages i).objects
      (Draft.freshObjects name w.uploaded (d.draft i))).lookup place

variable [ArtifactPredicates] [Predicates Artifact]

def write (above : List Layer) (i : ℕ) (below : List Layer) (name : String) (d : Desk) :
    BlobWrite → Desk × Except Fault Unit
  | .assign input => d.assign (above ++ .location i :: below) name input
  | .append u => d.on i (·.appendBlob name u)
  | .insert index u => d.on i (·.insertBlob name index u)
  | .replace index u => d.on i (·.replaceBlob name index u)
  | .remove index => d.on i (·.removeBlob name index)
  | .patch operation => d.applyOperation (above ++ .location i :: below) operation

variable {above below : List Layer} {i : ℕ} {name : String} {w : BlobWrite} {d : Desk}
  {f : Field Artifact}

lemma leaves_write (habove : ∀ j, Layer.location j ∉ above)
    (hbelow : ∀ j, Layer.location j ∉ below) (hf : d.artifact.fields.lookup name = some f)
    (hr : f.definition.role = .blob) (hw : w.Addresses name)
    (h : (d.write above i below name w).2 = .ok ()) :
    Leaves i name w.uploaded (w.gone name d.artifact (d.write above i below name w).1.artifact) d
      (d.write above i below name w).1 := by
  have hon : ∀ x : Draft, (d.withDraft i x).storages i = x.storage := fun x => by simp [withDraft]
  cases w with
  | assign input => exact leaves_assign habove hbelow hf hr h
  | append u =>
    obtain ⟨b, x, hx, hstorage⟩ := Draft.leaves_uploadItem .append none h
    exact ⟨[b], x, hx, (hon _).trans hstorage⟩
  | insert index u =>
    obtain ⟨b, x, hx, hstorage⟩ := Draft.leaves_uploadItem (.insert index) none h
    exact ⟨[b], x, hx, (hon _).trans hstorage⟩
  | replace index u =>
    obtain ⟨b, x, hx, hstorage⟩ := Draft.leaves_uploadItem (.setItem index) (some index) h
    have hitem : (some index).toList.flatMap ((d.draft i).artifact.itemPlaces name) =
        d.artifact.itemPlaces name index := List.flatMap_singleton _ _
    rw [hitem] at hstorage
    exact ⟨[b], x, hx, (hon _).trans hstorage⟩
  | remove index =>
    exact ⟨[], d.draft i, .nil _, (hon _).trans (Draft.leaves_removeBlob h)⟩
  | patch operation =>
    obtain ⟨rest, hpath⟩ := hw
    simp only [write, applyOperation] at h ⊢
    cases hi : operation.input d.artifact with
    | error e => simp [hi] at h
    | ok x =>
      obtain ⟨n, input⟩ := x
      obtain rfl := Patch.Operation.input_name hpath hi
      rw [hi] at h
      have huploaded : input.uploaded = [] := by
        have hupload := Patch.Operation.isUpload_input hi
        cases input <;> first | rfl | cases hupload
      have hleaves := leaves_assign habove hbelow hf hr h
      rwa [huploaded] at hleaves

lemma steps_write (above : List Layer) (i : ℕ) (below : List Layer) (name : String)
    (w : BlobWrite) (d : Desk) :
    Relation.ReflTransGen Artifact.Step d.artifact (d.write above i below name w).1.artifact := by
  cases w with
  | assign input => exact (writes_assign _ name input d).steps
  | append u => exact (Draft.editsList_uploadItem name .append none u (d.draft i)).steps
  | insert index u => exact (Draft.editsList_uploadItem name (.insert index) none u (d.draft i)).steps
  | replace index u =>
    exact (Draft.editsList_uploadItem name (.setItem index) (some index) u (d.draft i)).steps
  | remove index => exact (Draft.editsList_removeBlob name index (d.draft i)).steps
  | patch operation => exact steps_operation _ operation d

omit [ArtifactPredicates] [Predicates Artifact] in
lemma given_up_iff {gone old referred : Prop} [Decidable gone] [Decidable old]
    [Decidable referred] {stored : Option (List UInt8)} (hold : gone → old)
    (hfree : old → ¬ referred → gone) :
    (if gone then none else stored) = (if old ∧ ¬ referred then none else stored) ↔
      (old → referred → stored ≠ none → ¬ gone) := by
  by_cases hg : gone
  · by_cases hr : referred
    · simp [hg, hr, hold hg, eq_comm]
    · simp [hg, hr, hold hg]
  · have hn : ¬ (old ∧ ¬ referred) := fun h => hg (hfree h.1 h.2)
    simp [hg, hn]

/-- A write to a blob attribute deletes exactly what became unreferenced, unless it is the removal
of an item and one of its stored places is still referred to. -/
theorem exact_write_iff (habove : ∀ j, Layer.location j ∉ above)
    (hbelow : ∀ j, Layer.location j ∉ below) (hf : d.artifact.fields.lookup name = some f)
    (hr : f.definition.role = .blob) (hdeletes : (d.storages i).deletes = true)
    (hserved : (d.storages i).Served) (hw : w.Addresses name) {d' : Desk}
    (h : d.write above i below name w = (d', .ok ())) :
    (Exact i name w d d' ↔ ∀ place, place ∈ w.written name d.artifact →
      place ∈ d'.artifact.blobPlaces → (Dict.update (d.storages i).objects
        (Draft.freshObjects name w.uploaded (d.draft i))).lookup place ≠ none →
      w.isRemove = false ∧ place ∈ d'.artifact.heldPlaces) ∧
    (w.isRemove = false → ∀ t : ArtifactType, t.Declared → t.BlobsShaped →
      d.artifact.Canonical t → Exact i name w d d') := by
  have hleaves := leaves_write habove hbelow hf hr hw (congrArg Prod.snd h)
  rw [h] at hleaves
  have hlookup := hleaves.lookup hdeletes hserved
  have hgone : ∀ place, place ∈ w.gone name d.artifact d'.artifact ↔
      place ∈ w.written name d.artifact ∧
        ¬ (w.isRemove = false ∧ place ∈ d'.artifact.heldPlaces) := by
    intro place
    unfold BlobWrite.gone
    cases w.isRemove <;> simp [unheld]
  have hiff : Exact i name w d d' ↔ ∀ place, place ∈ w.written name d.artifact →
      place ∈ d'.artifact.blobPlaces → (Dict.update (d.storages i).objects
        (Draft.freshObjects name w.uploaded (d.draft i))).lookup place ≠ none →
      w.isRemove = false ∧ place ∈ d'.artifact.heldPlaces := by
    refine forall_congr' fun place => ?_
    have hold := fun hg => ((hgone place).1 hg).1
    have hfree : place ∈ w.written name d.artifact → place ∉ d'.artifact.blobPlaces →
        place ∈ w.gone name d.artifact d'.artifact := fun ho hn =>
      (hgone place).2 ⟨ho, fun hheld => hn (Artifact.blobPlaces_of_held hheld.2)⟩
    rw [hlookup, given_up_iff hold hfree]
    refine forall_congr' fun ho => forall_congr' fun _ => forall_congr' fun _ => ?_
    rw [hgone]
    simp [ho]
  refine ⟨hiff, fun hremove t ht hshaped hc => hiff.2 fun _ _ href _ => ⟨hremove, ?_⟩⟩
  have hafter := hc.steps ht (steps_write above i below name w d)
  rw [h] at hafter
  exact (hafter.flat ht hshaped).held href

end Desk

namespace Artifact.Sample

open Definition

attribute [local instance] Predicates.parityAndSize ArtifactPredicates.owned

def album : Descriptor where
  name := "Album"
  version := "1.0.0"
  attributes := [("prints", .list .blob)]

def albumType : ArtifactType :=
  album.declare.toOption.get rfl

def prints : Definition Artifact :=
  (albumType.attributes.lookup "prints").get rfl

def print (key : String) : Blob :=
  ⟨3, none, key, [⟨"memory://sea", .active⟩]⟩

def bothPrints : Value Artifact :=
  .list [.blob (print "large"), .blob (print "small")]

def printed : Artifact :=
  ((blank albumType "a" start).set "prints" (some bothPrints)).toOption.get rfl

def printing : Desk :=
  ⟨printed, fun _ => { objects := [("memory://sea", [1, 2, 3])] }⟩

def keepSmall : BlobWrite :=
  .assign (.value (some (.list [.blob (print "small")])))

lemma declared_album : albumType.Declared := by
  refine .declare (by simp [album]) (fun e he => ?_) (show album.declare = .ok albumType from rfl)
  obtain rfl := List.mem_singleton.1 he
  exact .list .blob

lemma blobsShaped_album : albumType.BlobsShaped := by
  intro e he _
  obtain rfl := List.mem_singleton.1 he
  refine forall_within (shapeKept_ofKind (.list .blob)) fun q hq => ?_
  obtain rfl := List.mem_singleton.1 hq
  exact forall_within (shapeKept_ofKind .blob) nofun

lemma canonical_printed : printed.Canonical albumType :=
  (canonical_blank declared_album "a" start).steps declared_album
    (steps_set (show (blank albumType "a" start).set "prints" (some bothPrints) = .ok printed from rfl))

theorem exact_write_prints : (∀ j, Layer.location j ∉ [.update []]) ∧
    printing.artifact.fields.lookup "prints" = some ⟨prints, some bothPrints, false⟩ ∧
    prints.role = .blob ∧ (printing.storages 0).deletes = true ∧ (printing.storages 0).Served ∧
    keepSmall.Addresses "prints" ∧
    ∃ d, printing.write [.update []] 0 [] "prints" keepSmall = (d, .ok ()) ∧
      Desk.Exact 0 "prints" keepSmall printing d ∧
      (d.storages 0).objects.lookup "memory://sea" = some [1, 2, 3] := by
  have habove : ∀ j, Layer.location j ∉ [.update []] := by simp
  have hbelow : ∀ j, Layer.location j ∉ [] := by simp
  have hf : printing.artifact.fields.lookup "prints" = some ⟨prints, some bothPrints, false⟩ := rfl
  have hrole : prints.role = .blob := rfl
  have hdeletes : (printing.storages 0).deletes = true := rfl
  have hserved : (printing.storages 0).Served := by
    intro place data hl
    obtain ⟨rfl, _⟩ := Prod.mk.inj (List.mem_singleton.1 (Dict.mem_of_lookup hl))
    rfl
  have hw : keepSmall.Addresses "prints" := trivial
  have hok : (printing.write [.update []] 0 [] "prints" keepSmall).2 = .ok () := rfl
  have hafter : (printing.write [.update []] 0 [] "prints" keepSmall).1.artifact.blobPlaces =
      ["memory://sea"] := rfl
  rcases hx : printing.write [.update []] 0 [] "prints" keepSmall with ⟨d, r⟩
  rw [hx] at hok hafter
  obtain rfl : r = .ok () := hok
  have hexact := (Desk.exact_write_iff habove hbelow hf hrole hdeletes hserved hw hx).2 rfl
    albumType declared_album blobsShaped_album canonical_printed
  refine ⟨habove, hf, hrole, hdeletes, hserved, hw, d, rfl, hexact, ?_⟩
  rw [hexact, hafter]
  rfl

theorem remove_print : ∃ d, printing.write [] 0 [] "prints" (.remove 0) = (d, .ok ()) ∧
    d.artifact.peek "prints" = some (.list [.blob (print "small")]) ∧
    "memory://sea" ∈ d.artifact.blobPlaces ∧
    (printing.storages 0).objects.lookup "memory://sea" = some [1, 2, 3] ∧
    (d.storages 0).objects.lookup "memory://sea" = none ∧
    ¬ Desk.Exact 0 "prints" (.remove 0) printing d := by
  refine ⟨_, rfl, rfl, ?_, rfl, rfl, fun h => ?_⟩
  · decide
  · exact absurd (h "memory://sea") (by decide)

end Artifact.Sample

end TypedArtifacts
