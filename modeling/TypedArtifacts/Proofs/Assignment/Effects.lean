import TypedArtifacts.Proofs.Assignment.Chain

namespace TypedArtifacts

namespace Input

def uploaded : Input → List Upload
  | upload u => [u]
  | uploads us => us
  | _ => []

def stored? (bs : List Blob) : Bool → Input → Option (Option (Value Artifact))
  | _, value v => some v
  | false, upload _ => bs.head?.map fun b => some (.blob b)
  | true, uploads _ => some (some (.list (bs.map .blob)))
  | _, _ => none

@[simp] lemma stored?_value (bs : List Blob) (isList : Bool) (v : Option (Value Artifact)) :
    (value v).stored? bs isList = some v := by
  cases isList <;> rfl

end Input

namespace Draft

inductive Uploaded (name : String) : List Upload → List Blob → Draft → Draft → Prop
  | nil (x : Draft) : Uploaded name [] [] x x
  | cons {u : Upload} {us : List Upload} {b : Blob} {bs : List Blob} {x y z : Draft} :
      x.upload name u = (y, .ok b) → Uploaded name us bs y z →
      Uploaded name (u :: us) (b :: bs) x z

inductive GivenUp (name : String) (x : Draft) : Draft → Prop
  | atOnce : GivenUp name x x
  | broken {us : List Upload} {bs : List Blob} {u : Upload} {y z : Draft} {e : Fault} :
      Uploaded name us bs x y → y.upload name u = (z, .error e) →
      GivenUp name x (z.discard (bs.flatMap (·.places)))

variable {name : String} {us : List Upload} {bs : List Blob} {x y : Draft}

lemma Uploaded.artifact_eq (h : Uploaded name us bs x y) : y.artifact = x.artifact := by
  induction h with
  | nil => rfl
  | cons hu _ ih => exact ih.trans (congrArg (·.1.artifact) hu.symm)

lemma Uploaded.snoc {u : Upload} {b : Blob} {z : Draft} (h : Uploaded name us bs x y)
    (hu : y.upload name u = (z, .ok b)) : Uploaded name (us ++ [u]) (bs ++ [b]) x z := by
  induction h with
  | nil x => exact .cons hu (.nil z)
  | cons hx _ ih => exact .cons hx (ih hu)

lemma GivenUp.artifact_eq (h : GivenUp name x y) : y.artifact = x.artifact := by
  cases h with
  | atOnce => rfl
  | broken hu hz => exact (congrArg (·.1.artifact) hz.symm).trans hu.artifact_eq

lemma uploadAll_cases (h : Uploaded name us bs x y) (vs : List Upload) :
    (∃ z e, y.uploadAll name vs bs = (z, .error e) ∧ GivenUp name x z) ∨
      ∃ cs z, y.uploadAll name vs bs = (z, .ok cs) ∧ Uploaded name (us ++ vs) cs x z := by
  induction vs generalizing us bs y with
  | nil => exact .inr ⟨bs, y, rfl, by rwa [List.append_nil]⟩
  | cons v vs ih =>
    rw [uploadAll]
    rcases hv : y.upload name v with ⟨z, e | b⟩
    · exact .inl ⟨_, e, rfl, .broken h hv⟩
    · rw [List.append_cons]
      exact ih (h.snoc hv)

end Draft

section

variable [ArtifactPredicates] [Predicates Artifact]

namespace Artifact

def Writes (name : String) (a b : Artifact) : Except Fault Unit → Prop
  | .ok _ => ∃ v, a.set name v = .ok b
  | .error _ => b = a

def EditsList (name : String) (a b : Artifact) : Except Fault Unit → Prop
  | .ok _ => ∃ edit taken, a.editList name edit = .ok (b, taken)
  | .error _ => b = a

end Artifact

namespace Draft

lemma editsList_settle {name : String} {a : Artifact} {edit : ListEdit} {fresh : List Blob}
    {stale : List String} {x : Draft} (hx : x.artifact = a) {r : Draft × Except Fault Unit}
    (h : r = x.settle (((a.editList name edit).map (·.1)).mapError .validation) fresh stale) :
    a.EditsList name r.1.artifact r.2 := by
  subst h
  cases he : a.editList name edit with
  | ok c => exact ⟨edit, c.2, he⟩
  | error e => exact hx

lemma uploadItem_cases (name : String) (edit : Value Artifact → ListEdit) (replaced : Option Nat)
    (u : Upload) (x : Draft) :
    (∃ y e, x.uploadItem name edit replaced u = (y, .error e) ∧ GivenUp name x y) ∨
      ∃ f b y, x.artifact.blobListField name = .ok f ∧ Uploaded name [u] [b] x y ∧
        x.uploadItem name edit replaced u =
          y.settle (((x.artifact.editList name (edit (.blob b))).map (·.1)).mapError .validation)
            [b] ((replaced.bind fun i => ((f.value?.bind (·.list?)).getD [])[i]?).toList.flatMap
              Value.places) := by
  rw [uploadItem]
  cases x.artifact.blobListField name with
  | error e => exact .inl ⟨x, _, rfl, .atOnce⟩
  | ok f =>
    dsimp only
    split
    · exact .inl ⟨x, _, rfl, .atOnce⟩
    · have hartifact : (x.upload name u).1.artifact = x.artifact := rfl
      rcases hx : x.upload name u with ⟨y, r⟩
      rw [hx] at hartifact
      cases r with
      | error e => exact .inl ⟨y, e, rfl, .broken (.nil x) hx⟩
      | ok b => exact .inr ⟨f, b, y, rfl, .cons hx (.nil y), by rw [← hartifact]⟩

lemma editsList_uploadItem (name : String) (edit : Value Artifact → ListEdit)
    (replaced : Option Nat) (u : Upload) (x : Draft) :
    x.artifact.EditsList name (x.uploadItem name edit replaced u).1.artifact
      (x.uploadItem name edit replaced u).2 := by
  rcases uploadItem_cases name edit replaced u x with ⟨y, e, hx, hy⟩ | ⟨f, b, y, _, hy, hx⟩
  · rw [hx]
    exact hy.artifact_eq
  · exact editsList_settle hy.artifact_eq hx

lemma editsList_removeBlob (name : String) (index : Nat) (x : Draft) :
    x.artifact.EditsList name (x.removeBlob name index).1.artifact (x.removeBlob name index).2 := by
  rw [removeBlob]
  cases x.artifact.blobListField name with
  | error e => exact rfl
  | ok f =>
    dsimp only
    cases he : x.artifact.editList name (.remove index) with
    | error e => exact rfl
    | ok r => exact ⟨_, r.2, he⟩

end Draft

namespace Desk

lemma writes_settle {name : String} {a : Artifact} {i : Nat} {fresh : List Blob}
    {stale : List String} {r : Desk × Except Fault Unit} (h : a.Writes name r.1.artifact r.2) :
    a.Writes name (settle i fresh stale r).1.artifact (settle i fresh stale r).2 := by
  obtain ⟨d, _ | _⟩ := r <;> exact h

omit [ArtifactPredicates] [Predicates Artifact] in
lemma assignBlob_cases (i : Nat) (name : String) (isList : Bool) (input : Input) (d : Desk)
    (write : Option (Value Artifact) → Desk → Desk × Except Fault Unit) :
    (∃ x e, d.assignBlob i name isList input write = (d.withDraft i x, .error e) ∧
      Draft.GivenUp name (d.draft i) x) ∨
      ∃ bs v x, Draft.Uploaded name input.uploaded bs (d.draft i) x ∧
        input.stored? bs isList = some v ∧ d.assignBlob i name isList input write =
          settle i bs ((d.artifact.peek name).toList.flatMap (·.places))
            (write v (d.withDraft i x)) := by
  have hrefused : ∀ r : Except Fault Unit, (d, r) = (d.withDraft i (d.draft i), r) := by
    intro r
    rw [withDraft_draft]
  cases input with
  | value v =>
    refine .inr ⟨[], v, d.draft i, .nil _, Input.stored?_value _ _ _, ?_⟩
    rw [withDraft_draft]
    cases isList <;> rfl
  | upload u =>
    cases isList with
    | true => exact .inl ⟨_, _, hrefused _, .atOnce⟩
    | false =>
      rcases hx : (d.draft i).upload name u with ⟨x, r⟩
      have hon : d.on i (·.upload name u) = (d.withDraft i x, r) := by rw [on, hx]
      simp only [assignBlob, hon]
      cases r with
      | error e => exact .inl ⟨x, e, rfl, .broken (.nil _) hx⟩
      | ok b => exact .inr ⟨[b], _, x, .cons hx (.nil x), rfl, rfl⟩
  | uploads us =>
    cases isList with
    | false => exact .inl ⟨_, _, hrefused _, .atOnce⟩
    | true =>
      simp only [assignBlob, on]
      rcases Draft.uploadAll_cases (.nil (d.draft i)) us with ⟨x, e, hx, hgiven⟩ | ⟨bs, x, hx, hu⟩
      · rw [hx]
        exact .inl ⟨x, e, rfl, hgiven⟩
      · rw [hx]
        exact .inr ⟨bs, _, x, hu, rfl, rfl⟩
  | _ => cases isList <;> exact .inl ⟨_, _, hrefused _, .atOnce⟩

lemma writes_assignBlob {i : Nat} {name : String} {isList : Bool} {input : Input}
    {write : Option (Value Artifact) → Desk → Desk × Except Fault Unit}
    (hw : ∀ v (d : Desk), d.artifact.Writes name (write v d).1.artifact (write v d).2) (d : Desk) :
    d.artifact.Writes name (d.assignBlob i name isList input write).1.artifact
      (d.assignBlob i name isList input write).2 := by
  rcases assignBlob_cases i name isList input d write with ⟨x, e, hx, hgiven⟩ | ⟨bs, v, x, hu, _, hx⟩
  · rw [hx]
    exact hgiven.artifact_eq
  · have hartifact : (d.withDraft i x).artifact = d.artifact := hu.artifact_eq
    rw [hx, ← hartifact]
    exact writes_settle (hw v _)

lemma writes_assign (layers : List Layer) (name : String) (input : Input) (d : Desk) :
    d.artifact.Writes name (d.assign layers name input).1.artifact
      (d.assign layers name input).2 := by
  induction layers generalizing input d with
  | nil =>
    rw [assign]
    cases ha : d.artifact.assign name input with
    | error e => exact rfl
    | ok a =>
      cases input with
      | value v => exact ⟨v, Outcome.mapError_eq_ok.1 ha⟩
      | _ => cases ha
  | cons layer below ih =>
    cases layer with
    | dependency l =>
      rw [assign]
      cases d.artifact.findField name with
      | error e => exact rfl
      | ok f =>
        dsimp only
        split
        · cases l.resolve d.artifact.id name f.definition.kind.isList input with
          | ok v => exact ih (.value v) d
          | error e => exact rfl
        · exact ih input d
    | location i =>
      rw [assign]
      cases d.artifact.blobField name with
      | error e => exact ih input d
      | ok f =>
        dsimp only
        split
        · exact rfl
        · exact writes_assignBlob (fun v d => ih (.value v) d) d
    | update allowed => exact ih input d

end Desk

end

end TypedArtifacts
