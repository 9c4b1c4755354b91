import TypedArtifacts.Patch
import TypedArtifacts.Proofs.Outcome
import TypedArtifacts.Proofs.Storage

/-! What a patch leaves as it is: the common fields, and all bytes but those it lets go of. -/

namespace TypedArtifacts

namespace Patch

variable {t : Target}

lemma Target.isUpload_assignIds {isList : Bool} {input : Input}
    (h : t.assignIds isList = .ok input) : input.isUpload = false := by
  unfold assignIds at h
  split at h
  · obtain rfl := Except.ok.inj h
    rfl
  · obtain ⟨j, _, h⟩ := Outcome.bind_eq_ok.1 h
    split at h
    · obtain rfl := Except.ok.inj h
      rfl
    · split at h
      · obtain ⟨ids, _, h⟩ := Outcome.bind_eq_ok.1 h
        obtain rfl := Except.ok.inj h
        rfl
      · obtain ⟨target, _, h⟩ := Outcome.bind_eq_ok.1 h
        obtain rfl := Except.ok.inj h
        rfl

lemma Target.isUpload_editLinks {isList : Bool} {current : Option (Value Artifact)}
    {rest : List String} {input : Input} (h : t.editLinks isList current rest = .ok input) :
    input.isUpload = false := by
  unfold editLinks at h
  split at h
  · exact isUpload_assignIds h
  · split at h
    · obtain ⟨i, _, h⟩ := Outcome.bind_eq_ok.1 h
      obtain ⟨ids, _, h⟩ := Outcome.bind_eq_ok.1 h
      obtain rfl := Except.ok.inj h
      rfl
    · cases h
  · cases h

lemma Target.isUpload_input {f : Field Artifact} {rest : List String} {input : Input}
    (h : t.input f rest = .ok input) : input.isUpload = false := by
  unfold Target.input at h
  split at h
  · obtain ⟨v, _, h⟩ := Outcome.bind_eq_ok.1 h
    obtain rfl := Except.ok.inj h
    rfl
  · exact isUpload_editLinks h
  · obtain ⟨v, _, h⟩ := Outcome.bind_eq_ok.1 h
    obtain rfl := Except.ok.inj h
    rfl

lemma Operation.isUpload_input {operation : Operation} {a : Artifact} {x : String × Input}
    (h : operation.input a = .ok x) : x.2.isUpload = false := by
  obtain ⟨segments, _, h⟩ := Outcome.bind_eq_ok.1 h
  cases segments with
  | nil => cases h
  | cons name rest =>
    dsimp only at h
    cases hf : a.field? name with
    | none =>
      rw [hf] at h
      cases h
    | some f =>
      rw [hf] at h
      obtain ⟨input, hi, h⟩ := Outcome.bind_eq_ok.1 h
      obtain rfl := Except.ok.inj h
      exact Target.isUpload_input hi

lemma Operation.input_name {operation : Operation} {a : Artifact} {name n : String}
    {rest : List String} {input : Input} (hpath : Path.parse operation.path = .ok (name :: rest))
    (h : operation.input a = .ok (n, input)) : n = name := by
  unfold Operation.input at h
  rw [hpath] at h
  simp only [Except.mapError, Outcome.ok_bind] at h
  split at h
  · cases h
  · obtain ⟨_, _, hx⟩ := Outcome.bind_eq_ok.1 h
    exact (Prod.mk.inj (Except.ok.inj hx)).1.symm

end Patch

namespace Artifact

variable [ArtifactPredicates] [Predicates Artifact]

lemma header_assign {name : String} {input : Input} {a b : Artifact}
    (h : a.assign name input = .ok b) : b.toHeader = a.toHeader := by
  cases input with
  | value v =>
    rw [assign, Outcome.mapError_eq_ok] at h
    obtain ⟨f, _, h⟩ := Outcome.bind_eq_ok.1 h
    obtain ⟨g, _, h⟩ := Outcome.bind_eq_ok.1 h
    obtain rfl := Except.ok.inj h
    rfl
  | _ => cases h

lemma header_assignLinked {l : Links} {name : String} {input : Input} {a b : Artifact}
    (h : a.assignLinked l name input = .ok b) : b.toHeader = a.toHeader := by
  obtain ⟨f, _, h⟩ := Outcome.bind_eq_ok.1 h
  split at h
  · obtain ⟨v, _, h⟩ := Outcome.bind_eq_ok.1 h
    exact header_assign h
  · exact header_assign h

end Artifact

namespace Draft

def letGo (name : String) (before after : Artifact) : List String :=
  ((before.peek name).toList.flatMap (·.places)).filter (!after.heldPlaces.contains ·)

structure Releases (places : List String) (d d' : Draft) : Prop where
  header : d'.artifact.toHeader = d.artifact.toHeader
  storage : d'.storage = d.storage.discard places

lemma releases_refl (d : Draft) : Releases [] d d :=
  ⟨rfl, rfl⟩

lemma Releases.trans {places others : List String} {d d' d'' : Draft} (h : Releases places d d')
    (h' : Releases others d' d'') : Releases (places ++ others) d d'' where
  header := h'.header.trans h.header
  storage := by rw [h'.storage, h.storage, Storage.discard_append]

variable [ArtifactPredicates] [Predicates Artifact]

def released (l : Links) (name : String) (input : Input) (d : Draft) : List String :=
  match d.artifact.blobField name, d.assign l name input with
  | .ok _, (d', .ok _) => letGo name d.artifact d'.artifact
  | _, _ => []

def releasedBy (l : Links) (allowed : List Patch.Verb) : List Patch.Operation → Draft → List String
  | [], _ => []
  | operation :: rest, d =>
    match operation.checkAllowed allowed, operation.input d.artifact with
    | .ok _, .ok (name, input) =>
      d.released l name input ++
        match d.assign l name input with
        | (d', .ok _) => releasedBy l allowed rest d'
        | (_, .error _) => []
    | _, _ => []

lemma assignBlob_refused {l : Links} {name : String} {isList : Bool} {input : Input} {d : Draft}
    (hi : input.isUpload = false) (hv : ∀ v, input ≠ .value v) :
    d.assignBlob l name isList input = (d, .error (input.refused name)) := by
  cases input with
  | value v => exact absurd rfl (hv v)
  | upload u => cases hi
  | uploads us => cases hi
  | _ => cases isList <;> rfl

lemma releases_assign {l : Links} (name : String) {input : Input} (d : Draft)
    (hi : input.isUpload = false) :
    Releases (d.released l name input) d (d.assign l name input).1 := by
  cases hf : d.artifact.blobField name with
  | error e =>
    simp only [released, assign, hf]
    cases ha : d.artifact.assignLinked l name input with
    | ok a => exact ⟨Artifact.header_assignLinked ha, rfl⟩
    | error fault => exact releases_refl d
  | ok f =>
    simp only [released, assign, hf, hi, Bool.false_and, Bool.false_eq_true, if_false]
    by_cases hv : ∃ v, input = .value v
    · obtain ⟨v, rfl⟩ := hv
      simp only [assignBlob]
      cases ha : d.artifact.assignLinked l name (.value v) with
      | ok a => exact ⟨Artifact.header_assignLinked ha, rfl⟩
      | error fault => exact releases_refl d
    · rw [assignBlob_refused hi fun v h => hv ⟨v, h⟩]
      exact releases_refl d

theorem releases_patch (l : Links) (allowed : List Patch.Verb) (operations : List Patch.Operation)
    (d : Draft) : Releases (d.releasedBy l allowed operations) d (d.patch l allowed operations).1 := by
  induction operations generalizing d with
  | nil => exact releases_refl d
  | cons operation rest ih =>
    rw [releasedBy, patch]
    cases operation.checkAllowed allowed with
    | error fault => exact releases_refl d
    | ok _ =>
      cases hx : operation.input d.artifact with
      | error fault =>
        simp only [applyOperation, hx]
        exact releases_refl d
      | ok x =>
        have ha := d.releases_assign (l := l) x.1 (Patch.Operation.isUpload_input hx)
        simp only [applyOperation, hx]
        rcases hd : d.assign l x.1 x.2 with ⟨d', r⟩
        rw [hd] at ha
        cases r with
        | ok _ => exact ha.trans (ih d')
        | error fault => simpa using ha

end Draft

end TypedArtifacts
