import TypedArtifacts.Proofs.Assignment.Fresh

namespace TypedArtifacts

namespace Draft

variable {name : String} {u : Upload} {us : List Upload} {bs : List Blob} {x y : Draft}

lemma storage_upload_error {e : Fault} (h : x.upload name u = (y, .error e)) :
    y.storage.deletes = x.storage.deletes ∧ y.storage.objects = x.storage.objects := by
  obtain ⟨rfl, hb⟩ := Prod.mk.inj h
  obtain ⟨_, hr⟩ := Outcome.mapError_eq_error hb
  exact ⟨Storage.deletes_upload _ _ _ _, Storage.objects_upload_error (Outcome.map_eq_error hr)⟩

lemma Uploaded.undone (h : Uploaded name us bs x y) (hd : x.storage.deletes = true)
    (hfresh : x.Fresh name) {s : Storage} (hdeletes : s.deletes = y.storage.deletes)
    (hobjects : s.objects = y.storage.objects) (place : String) :
    (s.discard (bs.flatMap (·.places))).objects.lookup place =
      x.storage.objects.lookup place := by
  obtain ⟨hkept, _, hy⟩ := h.storage
  have hserved : ∀ p ∈ bs.flatMap (·.places), ∀ data, s.objects.lookup p = some data →
      Storage.serves p = true := by
    intro p hp _ _
    rw [h.places] at hp
    obtain ⟨n, _, _, rfl⟩ := exists_number hp
    exact Storage.serves_placeOf _
  rw [Storage.lookup_discard ((hdeletes.trans hkept).trans hd) hserved, hobjects, hy, h.places]
  split
  · rename_i hp
    obtain ⟨n, hn, _, rfl⟩ := exists_number hp
    exact (hfresh n hn).1.symm
  · rename_i hp
    exact Dict.lookup_update_of_notMem hp

lemma GivenUp.lookup (h : GivenUp name x y) (hd : x.storage.deletes = true)
    (hfresh : x.Fresh name) (place : String) :
    y.storage.objects.lookup place = x.storage.objects.lookup place := by
  cases h with
  | atOnce => rfl
  | broken hu hz =>
    obtain ⟨hdeletes, hobjects⟩ := storage_upload_error hz
    exact hu.undone hd hfresh hdeletes hobjects place

lemma Uploaded.unheld (h : Uploaded name us bs x y) (hfresh : x.Fresh name) :
    Desk.unheld x.artifact (bs.flatMap (·.places)) = bs.flatMap (·.places) := by
  refine List.filter_eq_self.2 fun p hp => ?_
  have hnot : p ∉ x.artifact.heldPlaces := fun hheld => h.notMem_of_held hfresh hheld hp
  simpa using hnot

lemma Uploaded.discardUnheld (h : Uploaded name us bs x y) (hd : x.storage.deletes = true)
    (hfresh : x.Fresh name) (place : String) :
    (y.discardUnheld (bs.flatMap (·.places))).storage.objects.lookup place =
      x.storage.objects.lookup place := by
  have hgone : (y.discardUnheld (bs.flatMap (·.places))).storage =
      y.storage.discard (Desk.unheld y.artifact (bs.flatMap (·.places))) := rfl
  rw [hgone, h.artifact_eq, h.unheld hfresh]
  exact h.undone hd hfresh rfl rfl place

end Draft

namespace Desk

structure Unchanged (d d' : Desk) : Prop where
  shown : ∀ name, d'.artifact.peek name = d.artifact.peek name
  stored : ∀ j place,
    (d'.storages j).objects.lookup place = (d.storages j).objects.lookup place

variable {i : ℕ} {name : String} {d d' : Desk} {e : Fault}

lemma Unchanged.refl (d : Desk) : Unchanged d d :=
  ⟨fun _ => rfl, fun _ _ => rfl⟩

lemma unchanged_withDraft {x : Draft} (hartifact : x.artifact = d.artifact)
    (hlookup : ∀ place, x.storage.objects.lookup place = (d.storages i).objects.lookup place) :
    Unchanged d (d.withDraft i x) where
  shown n := by rw [withDraft, hartifact]
  stored j place := by
    by_cases hj : j = i
    · subst hj
      simpa [withDraft] using hlookup place
    · simp [withDraft, hj]

end Desk

section

variable [ArtifactPredicates] [Predicates Artifact]

namespace Draft

variable {name : String} {u : Upload} {x y : Draft} {e : Fault}

lemma lookup_uploadItem {edit : Value Artifact → ListEdit} {replaced : Option ℕ}
    (hd : x.storage.deletes = true) (hfresh : x.Fresh name)
    (h : x.uploadItem name edit replaced u = (y, .error e)) (place : String) :
    y.storage.objects.lookup place = x.storage.objects.lookup place := by
  rcases uploadItem_cases name edit replaced u x with ⟨z, e', hx, hgiven⟩ | ⟨f, b, z, _, hu, hx⟩
  · obtain ⟨rfl, _⟩ := Prod.mk.inj (h.symm.trans hx)
    exact hgiven.lookup hd hfresh place
  · rw [hx] at h
    cases hw : ((x.artifact.editList name (edit (.blob b))).map (·.1)).mapError Fault.validation with
    | ok a =>
      rw [hw, settle] at h
      cases congrArg Prod.snd h
    | error e' =>
      rw [hw, settle] at h
      obtain ⟨rfl, _⟩ := Prod.mk.inj h
      exact hu.discardUnheld hd hfresh place

lemma removeBlob_failed {index : ℕ} (h : x.removeBlob name index = (y, .error e)) : y = x := by
  rw [removeBlob] at h
  cases hf : x.artifact.blobListField name with
  | error e' =>
    rw [hf] at h
    exact (congrArg Prod.fst h).symm
  | ok f =>
    rw [hf] at h
    dsimp only at h
    cases he : x.artifact.editList name (.remove index) with
    | error e' =>
      rw [he] at h
      exact (congrArg Prod.fst h).symm
    | ok r =>
      rw [he] at h
      cases congrArg Prod.snd h

end Draft

namespace Desk

omit [ArtifactPredicates] [Predicates Artifact] in
lemma discardUnheld_nil (i : ℕ) (d : Desk) : d.discardUnheld i [] = d :=
  withDraft_artifact i d.artifact d

omit [ArtifactPredicates] [Predicates Artifact] in
lemma assignBlob_refused {i : ℕ} {name : String} {isList : Bool} {input : Input} {d : Desk}
    {write : Option (Value Artifact) → Desk → Desk × Except Fault Unit}
    (hi : input.isUpload = false) (hv : ∀ v, input ≠ .value v) :
    d.assignBlob i name isList input write = (d, .error (input.refused name)) := by
  cases input with
  | value v => exact absurd rfl (hv v)
  | upload u => cases hi
  | uploads us => cases hi
  | _ => cases isList <;> rfl

omit [ArtifactPredicates] [Predicates Artifact] in
lemma assignBlob_failed {i : ℕ} {name : String} {isList : Bool} {input : Input} {d d' : Desk}
    {e : Fault} {write : Option (Value Artifact) → Desk → Desk × Except Fault Unit}
    (hi : input.isUpload = false)
    (hwrite : ∀ v x f, write v d = (x, .error f) → x = d)
    (h : d.assignBlob i name isList input write = (d', .error e)) : d' = d := by
  by_cases hv : ∃ v, input = .value v
  · obtain ⟨v, rfl⟩ := hv
    rw [assignBlob] at h
    rcases hx : write v d with ⟨x, f | _⟩
    · -- Nothing was uploaded for this write, so nothing is deleted after it.
      have hsame : x = d := hwrite v x f hx
      rw [hx, settle, List.flatMap_nil, discardUnheld_nil, hsame] at h
      exact (congrArg Prod.fst h).symm
    · rw [hx, settle] at h
      cases congrArg Prod.snd h
  · rw [assignBlob_refused hi fun v hx => hv ⟨v, hx⟩] at h
    exact (congrArg Prod.fst h).symm

lemma assign_failed {layers : List Layer} {name : String} {input : Input} {d d' : Desk} {e : Fault}
    (hi : input.isUpload = false) (h : d.assign layers name input = (d', .error e)) : d' = d := by
  induction layers generalizing input d' e with
  | nil =>
    rw [assign] at h
    cases ha : d.artifact.assign name input with
    | ok a => simp [ha] at h
    | error f =>
      rw [ha] at h
      exact (congrArg Prod.fst h).symm
  | cons layer below ih =>
    cases layer with
    | update allowed => exact ih hi h
    | dependency l =>
      rw [assign] at h
      cases hf : d.artifact.findField name with
      | error f =>
        rw [hf] at h
        exact (congrArg Prod.fst h).symm
      | ok f =>
        rw [hf] at h
        dsimp only at h
        split at h
        · split at h
          · exact ih rfl h
          · exact (congrArg Prod.fst h).symm
        · exact ih hi h
    | location i =>
      rw [assign] at h
      cases hf : d.artifact.blobField name with
      | error f =>
        rw [hf] at h
        exact ih hi h
      | ok f =>
        rw [hf] at h
        simp only [hi, Bool.false_and, Bool.false_eq_true, if_false] at h
        exact assignBlob_failed hi (fun v x g hx => ih rfl hx) h

lemma applyOperation_failed {layers : List Layer} {operation : Patch.Operation} {d d' : Desk}
    {e : Fault} (h : d.applyOperation layers operation = (d', .error e)) : d' = d := by
  rw [applyOperation] at h
  cases hx : operation.input d.artifact with
  | error f =>
    rw [hx] at h
    exact (congrArg Prod.fst h).symm
  | ok x =>
    rw [hx] at h
    exact assign_failed (Patch.Operation.isUpload_input hx) h

omit [ArtifactPredicates] [Predicates Artifact] in
lemma unchanged_settle {bs : List Blob} {us : List Upload} {stale : List String} {x : Draft}
    (hu : Draft.Uploaded name us bs (d.draft i) x) (hd : (d.storages i).deletes = true)
    (hfresh : (d.draft i).Fresh name)
    (h : settle i bs stale (d.withDraft i x, .error e) = (d', .error e)) : Unchanged d d' := by
  have hd' : d' = d.withDraft i (x.discardUnheld (bs.flatMap (·.places))) := by
    rw [settle, discardUnheld, draft_withDraft, withDraft_withDraft] at h
    exact (congrArg Prod.fst h).symm
  rw [hd']
  exact unchanged_withDraft hu.artifact_eq (hu.discardUnheld hd hfresh)

omit [ArtifactPredicates] [Predicates Artifact] in
lemma unchanged_assignBlob {isList : Bool} {input : Input}
    {write : Option (Value Artifact) → Desk → Desk × Except Fault Unit}
    (hwrite : ∀ v x y f, write v x = (y, .error f) → y = x)
    (hd : (d.storages i).deletes = true) (hfresh : (d.draft i).Fresh name)
    (h : d.assignBlob i name isList input write = (d', .error e)) : Unchanged d d' := by
  rcases assignBlob_cases i name isList input d write with ⟨x, f, hx, hgiven⟩ | ⟨bs, v, x, hu, _, hx⟩
  · obtain ⟨rfl, _⟩ := Prod.mk.inj (h.symm.trans hx)
    exact unchanged_withDraft hgiven.artifact_eq (hgiven.lookup hd hfresh)
  · rw [hx] at h
    rcases hw : write v (d.withDraft i x) with ⟨y, f | _⟩
    · obtain rfl := hwrite v _ y f hw
      rw [hw] at h
      obtain rfl : f = e := Except.error.inj (congrArg Prod.snd h)
      exact unchanged_settle hu hd hfresh h
    · rw [hw] at h
      cases congrArg Prod.snd h

lemma unchanged_assign {layers : List Layer} {input : Input}
    (hstorages : ∀ j, Layer.location j ∈ layers →
      (d.storages j).deletes = true ∧ (d.draft j).Fresh name)
    (h : d.assign layers name input = (d', .error e)) : Unchanged d d' := by
  induction layers generalizing input with
  | nil =>
    rw [assign] at h
    cases ha : d.artifact.assign name input with
    | ok a => simp [ha] at h
    | error f =>
      rw [ha] at h
      obtain rfl := congrArg Prod.fst h
      exact .refl d
  | cons layer below ih =>
    have hrest : ∀ j, Layer.location j ∈ below →
        (d.storages j).deletes = true ∧ (d.draft j).Fresh name :=
      fun j hj => hstorages j (List.mem_cons_of_mem _ hj)
    cases layer with
    | update allowed => exact ih hrest h
    | dependency l =>
      rw [assign] at h
      split at h
      · obtain rfl := congrArg Prod.fst h
        exact .refl d
      · split at h
        · split at h
          · exact ih hrest h
          · obtain rfl := congrArg Prod.fst h
            exact .refl d
        · exact ih hrest h
    | location j =>
      rw [assign] at h
      split at h
      · exact ih hrest h
      · split at h
        · obtain rfl := congrArg Prod.fst h
          exact .refl d
        · -- Only values are handed on, so a refusal below comes back with nothing changed.
          obtain ⟨hd, hfresh⟩ := hstorages j List.mem_cons_self
          exact unchanged_assignBlob (fun v x y f hx => assign_failed rfl hx) hd hfresh h

theorem write_rejected {above below : List Layer} {w : BlobWrite}
    (hstorages : ∀ j, Layer.location j ∈ above ++ .location i :: below →
      (d.storages j).deletes = true ∧ (d.draft j).Fresh name)
    (h : d.write above i below name w = (d', .error e)) : Unchanged d d' := by
  obtain ⟨hd, hfresh⟩ := hstorages i (by simp)
  have hitem : ∀ edit replaced u,
      d.on i (·.uploadItem name edit replaced u) = (d', .error e) → Unchanged d d' := by
    intro edit replaced u hx
    obtain ⟨rfl, he⟩ := Prod.mk.inj hx
    have hartifact := Draft.editsList_uploadItem name edit replaced u (d.draft i)
    rw [he] at hartifact
    exact unchanged_withDraft hartifact (Draft.lookup_uploadItem hd hfresh (Prod.ext rfl he))
  cases w with
  | assign input => exact unchanged_assign hstorages h
  | append u => exact hitem _ _ u h
  | insert index u => exact hitem _ _ u h
  | replace index u => exact hitem _ _ u h
  | remove index =>
    obtain ⟨hd', he⟩ := Prod.mk.inj h
    have hkept : ((d.draft i).removeBlob name index).1 = d.draft i :=
      Draft.removeBlob_failed (Prod.ext rfl he)
    rw [hkept, withDraft_draft] at hd'
    exact hd' ▸ .refl d
  | patch operation =>
    rw [applyOperation_failed h]
    exact .refl d

end Desk

end

namespace Artifact.Sample

attribute [local instance] Predicates.parityAndSize ArtifactPredicates.owned

def jammed : Desk :=
  ⟨printed, fun _ => { objects := [("memory://sea", [1, 2, 3])], faulty := [2] }⟩

def reprint : BlobWrite :=
  .assign (.uploads [⟨[4, 5], none⟩, ⟨[6], none⟩])

lemma fresh_jammed (j : ℕ) : (jammed.draft j).Fresh "prints" := by
  intro n _
  have hplace : (jammed.draft j).place "prints" n ≠ "memory://sea" := by
    intro h
    have hlength := congrArg String.length h
    simp only [Draft.place, Storage.placeOf, String.length_append] at hlength
    have hscheme : Storage.scheme.length = 9 := rfl
    have hname : "prints".length = 6 := rfl
    have hsea : "memory://sea".length = 12 := rfl
    omega
  have hheld : (jammed.draft j).artifact.heldPlaces = ["memory://sea", "memory://sea"] := rfl
  have hobjects : (jammed.draft j).storage.objects = [("memory://sea", [1, 2, 3])] := rfl
  rw [hheld, hobjects]
  exact ⟨by simp [List.lookup_cons, beq_false_of_ne hplace], by simp [hplace]⟩

theorem write_rejected_prints :
    (∀ j, Layer.location j ∈ [Layer.update []] ++ .location 0 :: [] →
      (jammed.storages j).deletes = true ∧ (jammed.draft j).Fresh "prints") ∧
    ∃ d, jammed.write [.update []] 0 [] "prints" reprint =
        (d, .error (.storage (.broken "upload refused"))) ∧
      jammed.Unchanged d ∧ (d.storages 0).issued = 2 := by
  have hstorages : ∀ j, Layer.location j ∈ [Layer.update []] ++ .location 0 :: [] →
      (jammed.storages j).deletes = true ∧ (jammed.draft j).Fresh "prints" :=
    fun j _ => ⟨rfl, fresh_jammed j⟩
  have herror : (jammed.write [.update []] 0 [] "prints" reprint).2 =
      .error (.storage (.broken "upload refused")) := rfl
  have hissued : ((jammed.write [.update []] 0 [] "prints" reprint).1.storages 0).issued = 2 := rfl
  rcases hx : jammed.write [.update []] 0 [] "prints" reprint with ⟨d, r⟩
  rw [hx] at herror hissued
  obtain rfl : r = .error (.storage (.broken "upload refused")) := herror
  exact ⟨hstorages, d, rfl, Desk.write_rejected hstorages hx, hissued⟩

end Artifact.Sample

end TypedArtifacts
