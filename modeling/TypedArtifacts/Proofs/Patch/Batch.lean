import TypedArtifacts.Proofs.Assignment.Rejection
import TypedArtifacts.Proofs.Engine.Navigation

/-! Batches of patch operations: they are applied up to the first that is refused, which leaves
nothing behind. -/

namespace TypedArtifacts

namespace Desk

variable [ArtifactPredicates] [Predicates Artifact]

def applyEach (layers : List Layer) (operations : List Patch.Operation) (d : Desk) : Desk :=
  operations.foldl (fun d operation => (d.applyOperation layers operation).1) d

def refusal? (layers : List Layer) (allowed : List Patch.Verb) (operation : Patch.Operation)
    (d : Desk) : Option Fault :=
  match operation.checkAllowed allowed, (d.applyOperation layers operation).2 with
  | .error e, _ => some e
  | .ok _, .error e => some e
  | .ok _, .ok _ => none

def faultAt? (layers : List Layer) (allowed : List Patch.Verb) (operations : List Patch.Operation)
    (d : Desk) (k : ℕ) : Option Fault :=
  operations[k]?.bind fun operation =>
    (d.applyEach layers (operations.take k)).refusal? layers allowed operation

lemma patch_refused {layers : List Layer} {allowed : List Patch.Verb} {operation : Patch.Operation}
    {d : Desk} {f : Fault} (h : d.refusal? layers allowed operation = some f)
    (rest : List Patch.Operation) : d.patch layers allowed (operation :: rest) = (d, .error f) := by
  rw [refusal?] at h
  rw [patch]
  cases hc : operation.checkAllowed allowed with
  | error e =>
    rw [hc] at h
    rw [Option.some.inj h]
  | ok _ =>
    rcases hx : d.applyOperation layers operation with ⟨d', e | _⟩
    · rw [hc, hx] at h
      obtain rfl : e = f := Option.some.inj h
      exact congrArg (·, _) (applyOperation_failed hx)
    · simp [hc, hx] at h

lemma patch_accepted {layers : List Layer} {allowed : List Patch.Verb} {operation : Patch.Operation}
    {d : Desk} (h : d.refusal? layers allowed operation = none) (rest : List Patch.Operation) :
    d.patch layers allowed (operation :: rest) =
      (d.applyOperation layers operation).1.patch layers allowed rest := by
  rw [refusal?] at h
  rw [patch]
  cases hc : operation.checkAllowed allowed with
  | error e => simp [hc] at h
  | ok _ =>
    rcases hx : d.applyOperation layers operation with ⟨d', _ | _⟩
    · simp [hc, hx] at h
    · rfl

lemma patch_of_fault {layers : List Layer} {allowed : List Patch.Verb}
    {operations : List Patch.Operation} {d : Desk} {k : ℕ} {f : Fault}
    (hk : d.faultAt? layers allowed operations k = some f)
    (hbefore : ∀ i < k, d.faultAt? layers allowed operations i = none) :
    d.patch layers allowed operations = (d.applyEach layers (operations.take k), .error f) := by
  induction operations generalizing d k with
  | nil => cases hk
  | cons operation rest ih =>
    cases k with
    | zero => exact patch_refused hk rest
    | succ k =>
      have hfirst : d.refusal? layers allowed operation = none := hbefore 0 k.succ_pos
      rw [patch_accepted hfirst rest]
      exact ih hk fun i hi => hbefore (i + 1) (Nat.succ_lt_succ hi)

lemma patch_of_no_fault {layers : List Layer} {allowed : List Patch.Verb}
    {operations : List Patch.Operation} {d : Desk}
    (h : ∀ k, d.faultAt? layers allowed operations k = none) :
    d.patch layers allowed operations = (d.applyEach layers operations, .ok ()) := by
  induction operations generalizing d with
  | nil => rfl
  | cons operation rest ih =>
    have hfirst : d.refusal? layers allowed operation = none := h 0
    rw [patch_accepted hfirst rest]
    exact ih fun k => h (k + 1)

end Desk

namespace Engine

def desk (e : Engine) (a : Artifact) : Desk :=
  ⟨a, fun _ => e.storage⟩

section

variable [Predicates Artifact]

def layers (e : Engine) : List Layer :=
  [.location 0, .dependency e.links]

variable [ArtifactPredicates]

lemma patchArtifact_eq (e : Engine) (operations : List Patch.Operation) (a : Artifact) :
    e.patchArtifact operations a =
      let (d, r) := (e.desk a).patch e.layers e.settings.allowedPatches operations
      ({ e with storage := d.storages 0 }, d.artifact, r) := by
  have h := Desk.patch_proxied e.links 0 e.settings.allowedPatches operations (e.desk a)
  rw [layers, h, patchArtifact, write]
  simp [Desk.on, Desk.withDraft, Desk.draft, desk]

def faultAt? (e : Engine) (a : Artifact) (operations : List Patch.Operation) : ℕ → Option Fault :=
  (e.desk a).faultAt? e.layers e.settings.allowedPatches operations

def patched (e : Engine) (a : Artifact) (operations : List Patch.Operation) : Artifact :=
  ((e.desk a).applyEach e.layers operations).artifact

variable {e : Engine} {id : String} {a : Artifact} {operations : List Patch.Operation}

lemma patch_fault (now : Instant) (ha : e.get id = .ok a) {k : ℕ} {f : Fault}
    (hk : e.faultAt? a operations k = some f)
    (hbefore : ∀ i < k, e.faultAt? a operations i = none) :
    (e.patch now id operations).2 = .error f ∧ (e.patch now id operations).1.store = e.store := by
  have hp := Desk.patch_of_fault hk hbefore
  have hpatch : e.patch now id operations =
      ({ e with storage := ((e.desk a).applyEach e.layers (operations.take k)).storages 0 },
        .error f) := by
    rw [patch, ha]
    dsimp only
    rw [patchArtifact_eq, hp]
  rw [hpatch]
  exact ⟨rfl, rfl⟩

lemma patch_applied (now : Instant) (he : e.store.Keyed) (ha : e.get id = .ok a)
    (h : ∀ k, e.faultAt? a operations k = none) :
    (e.patched a operations).id = id ∧ ∃ storage, e.patch now id operations =
      ({ e with storage := storage } : Engine).save now (e.patched a operations) := by
  have hp := Desk.patch_of_no_fault h
  have hpatch := patchArtifact_eq e operations a
  rw [hp] at hpatch
  refine ⟨?_, ((e.desk a).applyEach e.layers operations).storages 0, ?_⟩
  · obtain ⟨stored, hs, hstored⟩ := header_get ha
    have hkept := (Draft.releases_patch e.links e.settings.allowedPatches operations
      ⟨a, e.storage⟩).header
    have hdraft : (Draft.patch e.links e.settings.allowedPatches operations
        ⟨a, e.storage⟩).1.artifact = e.patched a operations :=
      congrArg (fun r => r.2.1) hpatch
    rw [hdraft, hstored] at hkept
    exact (congrArg Header.id hkept).trans (he _ _ hs)
  · rw [patch, ha]
    dsimp only
    rw [hpatch]
    rfl

/-- A batch stops at the first operation that is not allowed, or that fails on what those before it
leave. It ends with the fault of that operation and does nothing but apply those before it; if there
is none, it applies all. A patch of a stored artifact saves its batch if no operation is refused, and
stores nothing otherwise. -/
theorem patch_prefix :
    (∀ (layers : List Layer) (allowed : List Patch.Verb) (operations : List Patch.Operation)
        (d : Desk),
      (∀ k f, d.faultAt? layers allowed operations k = some f →
        (∀ i < k, d.faultAt? layers allowed operations i = none) →
        d.patch layers allowed operations =
          (d.applyEach layers (operations.take k), .error f)) ∧
      ((∀ k, d.faultAt? layers allowed operations k = none) →
        d.patch layers allowed operations = (d.applyEach layers operations, .ok ()))) ∧
    ∀ (e : Engine) (now : Instant) (id : String) (operations : List Patch.Operation) (a : Artifact),
      e.store.Keyed → e.get id = .ok a →
      (∀ k f, e.faultAt? a operations k = some f → (∀ i < k, e.faultAt? a operations i = none) →
        (e.patch now id operations).2 = .error f ∧
          (e.patch now id operations).1.store = e.store) ∧
      ((∀ k, e.faultAt? a operations k = none) →
        (e.patch now id operations).1.store.find? id =
            some { Bag.ofArtifact (e.patched a operations) with updatedAt := now } ∧
          (∀ other, other ≠ id →
            (e.patch now id operations).1.store.find? other = e.store.find? other) ∧
          (e.patch now id operations).2 = (e.patch now id operations).1.get id) := by
  refine ⟨fun layers allowed operations d =>
    ⟨fun k f hk hbefore => Desk.patch_of_fault hk hbefore, Desk.patch_of_no_fault⟩, ?_⟩
  intro e now id operations a he ha
  refine ⟨fun k f hk hbefore => patch_fault now ha hk hbefore, fun h => ?_⟩
  obtain ⟨stored, hs, _⟩ := header_get ha
  obtain ⟨hid, storage, hpatch⟩ := patch_applied now he ha h
  have hs' : ({ e with storage := storage } : Engine).store.find? (e.patched a operations).id =
      some stored := by rw [hid, ← hs]
  rw [hpatch]
  refine ⟨?_, fun other hne => ?_, ?_⟩
  · rw [← hid]
    exact find?_save hs' now
  · rw [store_save hs' now]
    exact Store.find?_put_of_ne (hid.symm ▸ hne) e.store
  · have hsaved : ({ e with storage := storage } : Engine).saved? now (e.patched a operations) =
        some { Bag.ofArtifact (e.patched a operations) with updatedAt := now } := by
      rw [saved?, hs', Option.map_some]
    rw [save_eq, hsaved, written_result]
    exact congrArg _ hid

end

namespace Sample

open Session.Sample

attribute [local instance] Predicates.parityAndSize ArtifactPredicates.owned

def rename : Patch.Operation :=
  ⟨.replace, "/title", some (.str "Persuasion")⟩

def nowhere : Patch.Operation :=
  ⟨.remove, "/nope", none⟩

def renamed : Artifact :=
  (titled.set "title" (some (.string "Persuasion"))).toOption.get rfl

lemma keyed_stored : stored.store.Keyed :=
  (Session.keyed_of_empty (show Session.Sample.start.engine.store.bags = [] from rfl)).put _

lemma get_stored : stored.get "a" = .ok titled := by
  rw [get_leaf (b := .ofArtifact titled) rfl rfl]
  rfl

lemma accepted_rename : stored.faultAt? titled [rename] = fun _ => none := by
  funext k
  cases k with
  | zero => rfl
  | succ k => rfl

theorem patch_prefix_page :
    (∃ f, (stored.desk titled).patch stored.layers stored.settings.allowedPatches
        [rename, nowhere] = (stored.desk renamed, .error f) ∧
      (stored.patch ⟨1, 0⟩ "a" [rename, nowhere]).2 = .error f ∧
      (stored.patch ⟨1, 0⟩ "a" [rename, nowhere]).1.store = stored.store) ∧
    (stored.patch ⟨1, 0⟩ "a" [rename]).1.store.find? "a" =
      some { Bag.ofArtifact renamed with updatedAt := ⟨1, 0⟩ } := by
  obtain ⟨hbatch, hengine⟩ := patch_prefix
  have hbefore : ∀ i < 1, stored.faultAt? titled [rename, nowhere] i = none := by
    intro i hi
    obtain rfl := Nat.lt_one_iff.1 hi
    rfl
  have hfault : stored.faultAt? titled [rename, nowhere] 1 =
      some (.path ⟨"/nope", .noAttribute "nope"⟩) := rfl
  have hstops := (hbatch stored.layers stored.settings.allowedPatches [rename, nowhere]
    (stored.desk titled)).1 1 _ hfault hbefore
  have hrenamed : (stored.desk titled).applyEach stored.layers [rename] = stored.desk renamed := rfl
  obtain ⟨hfails, _⟩ := hengine stored ⟨1, 0⟩ "a" [rename, nowhere] titled keyed_stored get_stored
  obtain ⟨_, hsaves⟩ := hengine stored ⟨1, 0⟩ "a" [rename] titled keyed_stored get_stored
  refine ⟨⟨_, ?_, hfails 1 _ hfault hbefore⟩, ?_⟩
  · rw [hstops]
    exact congrArg (·, _) hrenamed
  · rw [(hsaves (congrFun accepted_rename)).1, patched, hrenamed]
    rfl

end Sample

end Engine

end TypedArtifacts
