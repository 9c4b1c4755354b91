import TypedArtifacts.Proofs.Assignment.Contents

namespace TypedArtifacts

structure Field.Plain (f : Field Artifact) : Prop where
  role : f.definition.role = .blob
  default : f.definition.default = none

lemma Field.Shows.items {f : Field Artifact} {c : Contents Blob} (h : f.Shows c)
    (hl : f.definition.kind.isList = true) :
    ∃ bs, c = .many bs ∧ (f.value?.bind (·.list?)).getD [] = bs.map .blob := by
  cases h with
  | unset hn | one hn => exact absurd (hl.symm.trans hn) nofun
  | empty _ hv => exact ⟨[], rfl, by rw [hv]; rfl⟩
  | @many bs _ hv => exact ⟨bs, rfl, by rw [hv]; rfl⟩

lemma Field.Shows.cleared {f g : Field Artifact} {c : Contents Blob} (h : f.Shows c)
    (hg : g.definition = f.definition) (hv : g.value? = none) : g.Shows c.cleared := by
  cases h with
  | unset hl | one hl => exact .unset (hg ▸ hl) hv
  | empty hl | many hl => exact .empty (hg ▸ hl) hv

lemma Field.Shows.stored {f g : Field Artifact} {c : Contents Blob} {input : Input}
    {bs : List Blob} {v : Option (Value Artifact)} (h : f.Shows c)
    (hg : g.definition = f.definition) (hlength : input.uploaded.length = bs.length)
    (hinput : ∀ w, input ≠ .value (some w))
    (hv : input.stored? bs f.definition.kind.isList = some v) (hvalue : g.value? = v) :
    ∃ c', g.Shows c' ∧ (BlobWrite.assign input).Acts bs c c' := by
  cases input with
  | value v' =>
    cases v' with
    | some w => exact absurd rfl (hinput w)
    | none =>
      rw [Input.stored?_value] at hv
      obtain rfl := Option.some.inj hv
      obtain rfl := List.length_eq_zero_iff.1 hlength.symm
      exact ⟨c.cleared, h.cleared hg hvalue, .clear⟩
  | upload u =>
    cases hl : f.definition.kind.isList with
    | true =>
      rw [hl] at hv
      cases hv
    | false =>
      obtain ⟨b, rfl⟩ := List.length_eq_one_iff.1 hlength.symm
      rw [hl] at hv
      obtain rfl := Option.some.inj hv
      cases h with
      | unset | one => exact ⟨_, .one (hg ▸ hl) hvalue, .set⟩
      | empty hn | many hn => exact absurd (hn.symm.trans hl) nofun
  | uploads us =>
    cases hl : f.definition.kind.isList with
    | false =>
      rw [hl] at hv
      cases hv
    | true =>
      rw [hl] at hv
      obtain rfl := Option.some.inj hv
      obtain ⟨olds, rfl, _⟩ := h.items hl
      exact ⟨_, .many (hg ▸ hl) hvalue, .setAll⟩
  | _ => cases hl : f.definition.kind.isList <;> rw [hl] at hv <;> cases hv

namespace Patch

lemma Target.editBlobs_ok {t : Target} {isList : Bool} {current v : Option (Value Artifact)}
    {rest : List String} (h : t.editBlobs isList current rest = .ok v) : t.verb = .remove ∧
      (rest = [] ∧ v = none ∨ ∃ segment i, rest = [segment] ∧ isList = true ∧
        Position ((current.bind (·.list?)).getD []).length false segment i ∧
        v = some (.list (((current.bind (·.list?)).getD []).eraseIdx i))) := by
  unfold editBlobs at h
  split at h
  · cases h
  · rename_i hverb
    refine ⟨not_not.1 hverb, ?_⟩
    split at h
    · exact .inl ⟨rfl, (Except.ok.inj h).symm⟩
    · split at h
      · rename_i segment hl
        obtain ⟨i, hi, h⟩ := Outcome.bind_eq_ok.1 h
        exact .inr ⟨segment, i, rfl, hl, index_eq_ok.1 hi, (Except.ok.inj h).symm⟩
      · cases h
    · cases h

lemma Operation.input_blob {operation : Operation} {a : Artifact} {name n : String}
    {rest : List String} {f : Field Artifact} {input : Input}
    (hpath : Path.parse operation.path = .ok (name :: rest))
    (hf : a.fields.lookup name = some f) (hr : f.definition.role = .blob)
    (h : operation.input a = .ok (n, input)) : n = name ∧ ∃ v, input = .value v ∧
      Target.editBlobs ⟨operation.path, name, operation.verb, operation.value⟩
        f.definition.kind.isList f.value? rest = .ok v := by
  refine ⟨input_name hpath h, ?_⟩
  unfold Operation.input at h
  simp only [hpath, Except.mapError, Outcome.ok_bind, Artifact.field?, hf] at h
  obtain ⟨input', hinput, h⟩ := Outcome.bind_eq_ok.1 h
  obtain ⟨_, rfl⟩ := Prod.mk.inj (Except.ok.inj h)
  unfold Target.input at hinput
  rw [hr] at hinput
  obtain ⟨v, hv, hinput⟩ := Outcome.bind_eq_ok.1 hinput
  exact ⟨v, (Except.ok.inj hinput).symm, hv⟩

end Patch

def BlobWrite.Known (name : String) : BlobWrite → Prop
  | assign (.value (some _)) => False
  | w => w.Addresses name

lemma BlobWrite.Known.addresses {name : String} {w : BlobWrite} (h : w.Known name) :
    w.Addresses name := by
  cases w with
  | assign input => trivial
  | _ => exact h

def Artifact.Refills (name : String) (f : Field Artifact) (c : Contents Blob)
    (a b : Artifact) : Prop :=
  ∃ g, b = a.withField name g ∧ g.definition = f.definition ∧ g.Shows c

section

variable [Predicates Artifact]

lemma Field.Plain.store {f g : Field Artifact} {name : String} {v : Option (Value Artifact)}
    (hp : f.Plain) (h : f.store name v = .ok g) : g.definition = f.definition ∧ g.value? = v := by
  obtain ⟨_, rfl⟩ := Field.store_ok h
  have hnormal : v.map f.definition.normalize = v := by
    cases v with
    | none => rfl
    | some w => exact congrArg some (Definition.normalize_blob hp.role w)
  rw [hnormal]
  exact ⟨rfl, by simp [Field.commit, Field.value?, hp.default]⟩

variable [ArtifactPredicates]

namespace Artifact

variable {a b : Artifact} {name : String} {f : Field Artifact} {c : Contents Blob}

lemma set_plain {v : Option (Value Artifact)} (hf : a.fields.lookup name = some f)
    (hp : f.Plain) (h : a.set name v = .ok b) :
    ∃ g, b = a.withField name g ∧ g.definition = f.definition ∧ g.value? = v := by
  obtain ⟨f', g, hf', _, hstore, rfl⟩ := set_ok h
  obtain rfl := Option.some.inj (hf.symm.trans hf')
  obtain ⟨hg, hv⟩ := hp.store hstore
  exact ⟨g, rfl, hg, hv⟩

lemma refills_editList {edit : ListEdit} {taken : Option (Value Artifact)} {w : BlobWrite}
    {fresh : List Blob} (hf : a.fields.lookup name = some f) (hp : f.Plain) (hshows : f.Shows c)
    (hrun : ∀ bs vs, edit.run (bs.map .blob) = .ok (vs, taken) →
      ∃ cs, vs = cs.map .blob ∧ w.Acts fresh (.many bs) (.many cs))
    (h : a.editList name edit = .ok (b, taken)) : ∃ c', Refills name f c' a b ∧ w.Acts fresh c c' := by
  obtain ⟨g, g', hopen, hedit, rfl⟩ := editList_ok h
  obtain ⟨f', hf', rfl⟩ := openList_ok hopen
  obtain rfl := Option.some.inj (hf.symm.trans hf')
  have hl : f.definition.kind.isList = true := by
    unfold openList at hopen
    rw [findField_of_lookup hf, Outcome.ok_bind] at hopen
    simpa using (Outcome.guard_eq_ok.1 hopen).1
  obtain ⟨bs, rfl, hitems⟩ := hshows.items hl
  obtain ⟨vs, hvs, hreplace⟩ := Guard.editList_ok hedit
  obtain ⟨g, hstore, rfl⟩ := Guard.replace_ok hreplace
  have hplain : (a.guard name f).field.Plain := ⟨hp.role, hp.default⟩
  obtain ⟨hg, hv⟩ := hplain.store hstore
  rw [show (a.guard name f).items = bs.map .blob from hitems] at hvs
  obtain ⟨cs, rfl, hacts⟩ := hrun bs vs hvs
  exact ⟨.many cs, ⟨g, rfl, hg, .many (hg ▸ hl) hv⟩, hacts⟩

end Artifact

namespace Draft

variable {name : String} {u : Upload} {x : Draft} {f : Field Artifact} {c : Contents Blob}

lemma refills_uploadItem {edit : Value Artifact → ListEdit} {replaced : Option ℕ} {w : BlobWrite}
    (hf : x.artifact.fields.lookup name = some f) (hp : f.Plain) (hshows : f.Shows c)
    (hrun : ∀ b bs vs taken, (edit (.blob b)).run (bs.map .blob) = .ok (vs, taken) →
      ∃ cs, vs = cs.map .blob ∧ w.Acts [b] (.many bs) (.many cs))
    (h : (x.uploadItem name edit replaced u).2 = .ok ()) : ∃ bs y c', Uploaded name [u] bs x y ∧
      Artifact.Refills name f c' x.artifact (x.uploadItem name edit replaced u).1.artifact ∧
      w.Acts bs c c' := by
  rcases uploadItem_cases name edit replaced u x with ⟨y, e, hx, _⟩ | ⟨_, b, y, _, hu, hx⟩
  · rw [hx] at h
    cases h
  · rw [hx] at h ⊢
    cases he : x.artifact.editList name (edit (.blob b)) with
    | error e =>
      rw [he] at h
      cases h
    | ok r =>
      obtain ⟨a, taken⟩ := r
      obtain ⟨c', hrefills, hacts⟩ := Artifact.refills_editList hf hp hshows
        (fun bs vs => hrun b bs vs taken) he
      exact ⟨[b], y, c', hu, hrefills, hacts⟩

lemma refills_removeBlob {index : ℕ} (hf : x.artifact.fields.lookup name = some f) (hp : f.Plain)
    (hshows : f.Shows c) (h : (x.removeBlob name index).2 = .ok ()) : ∃ c',
      Artifact.Refills name f c' x.artifact (x.removeBlob name index).1.artifact ∧
      (BlobWrite.remove index).Acts [] c c' := by
  rw [removeBlob] at h ⊢
  cases hg : x.artifact.blobListField name with
  | error e =>
    rw [hg] at h
    cases h
  | ok g =>
    rw [hg] at h
    dsimp only at h ⊢
    cases he : x.artifact.editList name (.remove index) with
    | error e =>
      rw [he] at h
      cases h
    | ok r =>
      obtain ⟨a, removed⟩ := r
      refine Artifact.refills_editList hf hp hshows (fun bs vs hvs => ?_) he
      rw [ListEdit.run] at hvs
      split at hvs
      · rename_i hi
        obtain ⟨rfl, _⟩ := Prod.mk.inj (Except.ok.inj hvs)
        rw [List.length_map] at hi
        exact ⟨bs.eraseIdx index, List.eraseIdx_map _ _ _, .delete hi⟩
      · cases hvs

end Draft

namespace Desk

variable {i : ℕ} {name : String} {above below : List Layer} {input : Input} {d : Desk}
  {f : Field Artifact} {c : Contents Blob}

omit [ArtifactPredicates] [Predicates Artifact] in
lemma settle_ok {fresh : List Blob} {stale : List String} {r : Desk × Except Fault Unit}
    (h : (settle i fresh stale r).2 = .ok ()) :
    r.2 = .ok () ∧ (settle i fresh stale r).1.artifact = r.1.artifact := by
  obtain ⟨d, e | _⟩ := r
  · cases h
  · exact ⟨rfl, rfl⟩

lemma set_of_assign (habove : ∀ j, Layer.location j ∉ above)
    (hbelow : ∀ j, Layer.location j ∉ below) (hf : d.artifact.fields.lookup name = some f)
    (hr : f.definition.role = .blob)
    (h : (d.assign (above ++ .location i :: below) name input).2 = .ok ()) :
    ∃ bs v x, Draft.Uploaded name input.uploaded bs (d.draft i) x ∧
      input.stored? bs f.definition.kind.isList = some v ∧ d.artifact.set name v =
        .ok (d.assign (above ++ .location i :: below) name input).1.artifact := by
  rw [assign_append habove hf hr] at h ⊢
  rw [assign, Artifact.blobField_eq_ok.2 ⟨hf, hr⟩] at h ⊢
  dsimp only at h ⊢
  split at h
  · cases h
  · rename_i hw
    rw [if_neg hw]
    rcases assignBlob_cases i name f.definition.kind.isList input d
      fun v => assign below name (.value v) with ⟨x, e, hx, _⟩ | ⟨bs, v, x, hu, hv, hx⟩
    · rw [hx] at h
      cases h
    · have hartifact : (d.withDraft i x).artifact = d.artifact := hu.artifact_eq
      have hinner : (d.withDraft i x).assign below name (.value v) =
          (d.withDraft i x).assign [] name (.value v) := by
        rw [← List.append_nil below]
        exact assign_append hbelow (by rwa [hartifact]) hr [] (.value v)
      rw [hx] at h ⊢
      obtain ⟨hok, hsame⟩ := settle_ok h
      refine ⟨bs, v, x, hu, hv, ?_⟩
      rw [hsame, hinner]
      rw [hinner, assign, hartifact] at hok
      rw [assign, hartifact]
      cases ha : d.artifact.assign name (.value v) with
      | error e =>
        rw [ha] at hok
        cases hok
      | ok a => exact Outcome.mapError_eq_ok.1 ha

lemma refills_assign (habove : ∀ j, Layer.location j ∉ above)
    (hbelow : ∀ j, Layer.location j ∉ below) (hf : d.artifact.fields.lookup name = some f)
    (hp : f.Plain) (hshows : f.Shows c) (hinput : ∀ v, input ≠ .value (some v))
    (h : (d.assign (above ++ .location i :: below) name input).2 = .ok ()) :
    ∃ bs x c', Draft.Uploaded name input.uploaded bs (d.draft i) x ∧
      Artifact.Refills name f c' d.artifact
        (d.assign (above ++ .location i :: below) name input).1.artifact ∧
      (BlobWrite.assign input).Acts bs c c' := by
  obtain ⟨bs, v, x, hu, hv, hset⟩ := set_of_assign habove hbelow hf hp.role h
  obtain ⟨g, hb, hg, hshown⟩ := Artifact.set_plain hf hp hset
  obtain ⟨c', hc', hacts⟩ := hshows.stored hg hu.holds.length_eq hinput hv hshown
  exact ⟨bs, x, c', hu, ⟨g, hb, hg, hc'⟩, hacts⟩

lemma refills_applyOperation {operation : Patch.Operation} {rest : List String}
    (habove : ∀ j, Layer.location j ∉ above)
    (hbelow : ∀ j, Layer.location j ∉ below) (hf : d.artifact.fields.lookup name = some f)
    (hp : f.Plain) (hshows : f.Shows c)
    (hpath : Patch.Path.parse operation.path = .ok (name :: rest))
    (h : (d.applyOperation (above ++ .location i :: below) operation).2 = .ok ()) :
    ∃ c', Artifact.Refills name f c' d.artifact
        (d.applyOperation (above ++ .location i :: below) operation).1.artifact ∧
      (BlobWrite.patch operation).Acts [] c c' := by
  rw [applyOperation] at h ⊢
  cases hi : operation.input d.artifact with
  | error e => simp [hi] at h
  | ok input =>
    obtain ⟨n, input⟩ := input
    obtain ⟨rfl, v, rfl, hedit⟩ := Patch.Operation.input_blob hpath hf hp.role hi
    rw [hi] at h
    obtain ⟨bs, v', x, hu, hv, hset⟩ := set_of_assign habove hbelow hf hp.role h
    obtain rfl : v = v' := Option.some.inj ((Input.stored?_value _ _ v).symm.trans hv)
    obtain ⟨g, hb, hg, hshown⟩ := Artifact.set_plain hf hp hset
    obtain ⟨hverb, ⟨rfl, rfl⟩ | ⟨segment, index, rfl, hl, hposition, rfl⟩⟩ :=
      Patch.Target.editBlobs_ok hedit
    · exact ⟨c.cleared, ⟨g, hb, hg, hshows.cleared hg hshown⟩, .patchClear hverb hpath⟩
    · obtain ⟨bs, rfl, hitems⟩ := hshows.items hl
      rw [hitems, List.length_map] at hposition
      rw [hitems, List.eraseIdx_map] at hshown
      exact ⟨.many (bs.eraseIdx index), ⟨g, hb, hg, .many (hg ▸ hl) hshown⟩,
        .patchDelete hverb hpath hposition⟩

variable {w : BlobWrite}

lemma refills_write (habove : ∀ j, Layer.location j ∉ above)
    (hbelow : ∀ j, Layer.location j ∉ below) (hf : d.artifact.fields.lookup name = some f)
    (hp : f.Plain) (hshows : f.Shows c) (hw : w.Known name)
    (h : (d.write above i below name w).2 = .ok ()) : ∃ bs x c',
      Draft.Uploaded name w.uploaded bs (d.draft i) x ∧ Artifact.Refills name f c' d.artifact
        (d.write above i below name w).1.artifact ∧ w.Acts bs c c' := by
  cases w with
  | assign input =>
    refine refills_assign habove hbelow hf hp hshows ?_ h
    rintro v rfl
    exact hw
  | append u =>
    refine Draft.refills_uploadItem hf hp hshows (fun b bs vs taken hrun => ?_) h
    obtain ⟨rfl, _⟩ := Prod.mk.inj (Except.ok.inj hrun)
    exact ⟨bs ++ [b], by rw [List.map_append]; rfl, .push⟩
  | insert index u =>
    refine Draft.refills_uploadItem hf hp hshows (fun b bs vs taken hrun => ?_) h
    rw [ListEdit.run] at hrun
    split at hrun
    · rename_i hindex
      obtain ⟨rfl, _⟩ := Prod.mk.inj (Except.ok.inj hrun)
      rw [List.length_map] at hindex
      exact ⟨bs.insertIdx index b, (List.map_insertIdx _ _ _ _).symm, .insert hindex⟩
    · cases hrun
  | replace index u =>
    refine Draft.refills_uploadItem hf hp hshows (fun b bs vs taken hrun => ?_) h
    rw [ListEdit.run] at hrun
    split at hrun
    · rename_i hindex
      obtain ⟨rfl, _⟩ := Prod.mk.inj (Except.ok.inj hrun)
      rw [List.length_map] at hindex
      exact ⟨bs.set index b, List.map_set.symm, .overwrite hindex⟩
    · cases hrun
  | remove index =>
    obtain ⟨c', hrefills, hacts⟩ := Draft.refills_removeBlob hf hp hshows h
    exact ⟨[], d.draft i, c', .nil _, hrefills, hacts⟩
  | patch operation =>
    obtain ⟨rest, hpath⟩ := hw
    obtain ⟨c', hrefills, hacts⟩ := refills_applyOperation habove hbelow hf hp hshows hpath h
    exact ⟨[], d.draft i, c', .nil _, hrefills, hacts⟩

end Desk

end

end TypedArtifacts
