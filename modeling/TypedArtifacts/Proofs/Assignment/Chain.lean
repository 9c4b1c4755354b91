import TypedArtifacts.Patch
import TypedArtifacts.Proofs.Outcome

/-! Layers around an artifact in any order, each of which passes on what it does not handle. -/

namespace TypedArtifacts

structure Desk where
  artifact : Artifact
  storages : Nat → Storage

inductive Layer where
  | dependency (l : Links)
  | location (storage : Nat)
  | update (allowed : List Patch.Verb)

namespace Desk

def draft (i : Nat) (d : Desk) : Draft :=
  ⟨d.artifact, d.storages i⟩

def withDraft (i : Nat) (x : Draft) (d : Desk) : Desk :=
  ⟨x.artifact, Function.update d.storages i x.storage⟩

def on {α : Type} (i : Nat) (f : Draft → Draft × α) (d : Desk) : Desk × α :=
  (d.withDraft i (f (d.draft i)).1, (f (d.draft i)).2)

def discardUnheld (i : Nat) (places : List String) (d : Desk) : Desk :=
  d.withDraft i ((d.draft i).discardUnheld places)

def settle (i : Nat) (fresh : List Blob) (stale : List String) :
    Desk × Except Fault Unit → Desk × Except Fault Unit
  | (d, .ok _) => (d.discardUnheld i stale, .ok ())
  | (d, .error e) => (d.discardUnheld i (fresh.flatMap (·.places)), .error e)

def assignBlob (i : Nat) (name : String) (isList : Bool) (input : Input) (d : Desk)
    (write : Option (Value Artifact) → Desk → Desk × Except Fault Unit) :
    Desk × Except Fault Unit :=
  let stale := (d.artifact.peek name).toList.flatMap (·.places)
  match isList, input with
  | _, .value v => settle i [] stale (write v d)
  | false, .upload u =>
    match d.on i (·.upload name u) with
    | (d, .ok b) => settle i [b] stale (write (some (.blob b)) d)
    | (d, .error e) => (d, .error e)
  | true, .uploads us =>
    match d.on i (·.uploadAll name us []) with
    | (d, .ok bs) => settle i bs stale (write (some (.list (bs.map .blob))) d)
    | (d, .error e) => (d, .error e)
  | _, input => (d, .error (input.refused name))

@[simp] lemma draft_withDraft (i : Nat) (x : Draft) (d : Desk) : (d.withDraft i x).draft i = x := by
  simp [draft, withDraft]

@[simp] lemma withDraft_withDraft (i : Nat) (x y : Draft) (d : Desk) :
    (d.withDraft i x).withDraft i y = d.withDraft i y := by
  simp [withDraft]

@[simp] lemma withDraft_draft (i : Nat) (d : Desk) : d.withDraft i (d.draft i) = d := by
  simp [withDraft, draft]

lemma withDraft_artifact (i : Nat) (a : Artifact) (d : Desk) :
    d.withDraft i ⟨a, d.storages i⟩ = { d with artifact := a } := by
  simp [withDraft]

lemma on_withDraft {α : Type} (i : Nat) (x : Draft) (f : Draft → Draft × α) (d : Desk) :
    (d.withDraft i x).on i f = (d.withDraft i (f x).1, (f x).2) := by
  simp [on]

lemma artifact_uploadAll (name : String) (us : List Upload) (done : List Blob) (x : Draft) :
    (x.uploadAll name us done).1.artifact = x.artifact := by
  induction us generalizing done x with
  | nil => rfl
  | cons u us ih =>
    rw [Draft.uploadAll]
    have hu : (x.upload name u).1.artifact = x.artifact := rfl
    rcases hx : x.upload name u with ⟨y, r⟩
    rw [hx] at hu
    cases r with
    | ok b => exact (ih _ y).trans hu
    | error e => exact hu

variable [ArtifactPredicates] [Predicates Artifact]

def assign : List Layer → String → Input → Desk → Desk × Except Fault Unit
  | [], name, input, d =>
    match d.artifact.assign name input with
    | .ok a => ({ d with artifact := a }, .ok ())
    | .error e => (d, .error e)
  | .dependency l :: below, name, input, d =>
    match d.artifact.findField name with
    | .error e => (d, .error (.validation e))
    | .ok f =>
      if f.definition.role = .dependency then
        match l.resolve d.artifact.id name f.definition.kind.isList input with
        | .ok v => assign below name (.value v) d
        | .error e => (d, .error e)
      else assign below name input d
  | .location i :: below, name, input, d =>
    match d.artifact.blobField name with
    | .error _ => assign below name input d
    | .ok f =>
      if input.isUpload && d.artifact.isReadOnly name then
        (d, .error (.validation ⟨name, .readOnly, none⟩))
      else d.assignBlob i name f.definition.kind.isList input fun v => assign below name (.value v)
  | .update _ :: below, name, input, d => assign below name input d

def applyOperation (layers : List Layer) (operation : Patch.Operation) (d : Desk) :
    Desk × Except Fault Unit :=
  match operation.input d.artifact with
  | .ok (name, input) => d.assign layers name input
  | .error e => (d, .error e)

def patch (layers : List Layer) (allowed : List Patch.Verb) :
    List Patch.Operation → Desk → Desk × Except Fault Unit
  | [], d => (d, .ok ())
  | operation :: rest, d =>
    match operation.checkAllowed allowed with
    | .error e => (d, .error e)
    | .ok _ =>
      match d.applyOperation layers operation with
      | (d, .ok _) => patch layers allowed rest d
      | (d, .error e) => (d, .error e)

lemma assign_dependency (l : Links) (name : String) (input : Input) (d : Desk) :
    assign [.dependency l] name input d =
      match d.artifact.assignLinked l name input with
      | .ok a => ({ d with artifact := a }, .ok ())
      | .error e => (d, .error e) := by
  simp only [assign, Artifact.assignLinked]
  cases d.artifact.findField name with
  | error e => rfl
  | ok f =>
    simp only [Except.mapError, Outcome.ok_bind]
    split
    · cases l.resolve d.artifact.id name f.definition.kind.isList input with
      | error e => rfl
      | ok v => rfl
    · rfl

lemma settle_dependency (l : Links) (i : Nat) (name : String) (v : Option (Value Artifact))
    (fresh : List Blob) (stale : List String) (x : Draft) (d : Desk) :
    settle i fresh stale (assign [.dependency l] name (.value v) (d.withDraft i x)) =
      (d.withDraft i (x.settle (x.artifact.assignLinked l name (.value v)) fresh stale).1,
        (x.settle (x.artifact.assignLinked l name (.value v)) fresh stale).2) := by
  rw [assign_dependency]
  change settle i fresh stale (match x.artifact.assignLinked l name (.value v) with
    | .ok a => _
    | .error e => _) = _
  cases x.artifact.assignLinked l name (.value v) with
  | error e => simp [settle, discardUnheld, Draft.settle]
  | ok a =>
    have h : ({ d.withDraft i x with artifact := a } : Desk) =
        d.withDraft i { x with artifact := a } := rfl
    simp [settle, discardUnheld, Draft.settle, h]

lemma assignBlob_dependency (l : Links) (i : Nat) (name : String) (isList : Bool) (input : Input)
    (d : Desk) :
    (d.assignBlob i name isList input fun v => assign [.dependency l] name (.value v)) =
      d.on i (Draft.assignBlob l name isList input) := by
  have hself : d.withDraft i (d.draft i) = d := withDraft_artifact i d.artifact d
  have hsettle := fun v fresh stale => settle_dependency l i name v fresh stale (d.draft i) d
  rw [hself] at hsettle
  cases input with
  | value v => exact hsettle v [] _
  | upload u =>
    cases isList with
    | true => exact congrArg (·, _) hself.symm
    | false =>
      simp only [assignBlob, on, Draft.assignBlob]
      have hu : ((d.draft i).upload name u).1.artifact = d.artifact := rfl
      rcases hx : (d.draft i).upload name u with ⟨x, r⟩
      rw [hx] at hu
      cases r with
      | error e => rfl
      | ok b =>
        dsimp only at hu ⊢
        rw [settle_dependency, hu]
        rfl
  | uploads us =>
    cases isList with
    | false => exact congrArg (·, _) hself.symm
    | true =>
      simp only [assignBlob, on, Draft.assignBlob]
      have hu := artifact_uploadAll name us [] (d.draft i)
      rcases hx : (d.draft i).uploadAll name us [] with ⟨x, r⟩
      rw [hx] at hu
      cases r with
      | error e => rfl
      | ok bs =>
        dsimp only at hu ⊢
        rw [settle_dependency, hu]
        rfl
  | _ => cases isList <;> exact congrArg (·, _) hself.symm

theorem assign_proxied (l : Links) (i : Nat) (allowed : List Patch.Verb) (name : String)
    (input : Input) (d : Desk) :
    assign [.update allowed, .location i, .dependency l] name input d =
      d.on i (Draft.assign l name input) := by
  have hself : d.withDraft i (d.draft i) = d := withDraft_artifact i d.artifact d
  have hfield : (d.draft i).artifact.blobField name = d.artifact.blobField name := rfl
  rw [assign, assign, on, Draft.assign, hfield]
  cases d.artifact.blobField name with
  | error e =>
    dsimp only
    rw [assign_dependency]
    have hlinked : (d.draft i).artifact.assignLinked l name input =
        d.artifact.assignLinked l name input := rfl
    rw [hlinked]
    cases d.artifact.assignLinked l name input with
    | error e => simp only [hself]
    | ok a =>
      have hwith : d.withDraft i { d.draft i with artifact := a } = { d with artifact := a } :=
        withDraft_artifact i a d
      simp only [hwith]
  | ok f =>
    dsimp only
    by_cases hr : (input.isUpload && d.artifact.isReadOnly name) = true
    · have hr' : (input.isUpload && (d.draft i).artifact.isReadOnly name) = true := hr
      rw [if_pos hr, if_pos hr', hself]
    · have hr' : ¬(input.isUpload && (d.draft i).artifact.isReadOnly name) = true := hr
      rw [if_neg hr, if_neg hr']
      exact assignBlob_dependency l i name f.definition.kind.isList input d

theorem patch_proxied (l : Links) (i : Nat) (allowed : List Patch.Verb)
    (operations : List Patch.Operation) (d : Desk) :
    patch [.location i, .dependency l] allowed operations d =
      d.on i (Draft.patch l allowed operations) := by
  have hself : ∀ d : Desk, d.withDraft i (d.draft i) = d :=
    fun d => withDraft_artifact i d.artifact d
  induction operations generalizing d with
  | nil => exact congrArg (·, _) (hself d).symm
  | cons operation rest ih =>
    simp only [patch, on, Draft.patch]
    cases operation.checkAllowed allowed with
    | error e => exact congrArg (·, _) (hself d).symm
    | ok _ =>
      have hinput : operation.input (d.draft i).artifact = operation.input d.artifact := rfl
      simp only [applyOperation, Draft.applyOperation, hinput]
      cases operation.input d.artifact with
      | error e => exact congrArg (·, _) (hself d).symm
      | ok x =>
        have ha : d.assign [.location i, .dependency l] x.1 x.2 =
            d.on i (Draft.assign l x.1 x.2) := assign_proxied l i allowed x.1 x.2 d
        dsimp only
        rw [ha, on]
        rcases (d.draft i).assign l x.1 x.2 with ⟨y, r⟩
        cases r with
        | error e => rfl
        | ok _ =>
          dsimp only
          rw [ih, on_withDraft]

theorem patch_bare (operations : List Patch.Operation) (d : Desk) :
    patch [] Patch.Verb.all operations d =
      ({ d with artifact := (d.artifact.patch operations).1 }, (d.artifact.patch operations).2) := by
  induction operations generalizing d with
  | nil => rfl
  | cons operation rest ih =>
    have hallowed : operation.checkAllowed Patch.Verb.all = .ok () := by
      obtain ⟨verb, path, value⟩ := operation
      cases verb <;> rfl
    simp only [patch, hallowed, applyOperation, Artifact.patch]
    cases operation.input d.artifact with
    | error e => rfl
    | ok x =>
      simp only [Outcome.ok_bind, assign]
      cases d.artifact.assign x.1 x.2 with
      | error e => rfl
      | ok a => exact ih _

end Desk

end TypedArtifacts
