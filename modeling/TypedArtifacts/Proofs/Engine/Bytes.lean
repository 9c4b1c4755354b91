import TypedArtifacts.Proofs.Engine.Call
import TypedArtifacts.Proofs.Patch

/-! What becomes of stored bytes when a patch fails. -/

namespace TypedArtifacts.Engine

section

variable [Predicates Artifact]

def fetchBlob (e : Engine) (id name : String) (index : Option ℕ) : Except Fault (List UInt8) := do
  e.readBlob (← e.get id) name index

/-- All bytes that one engine can fetch are the same for another. -/
def KeepsBytes (e e' : Engine) : Prop :=
  ∀ id name index data, e.fetchBlob id name index = .ok data →
    e'.fetchBlob id name index = .ok data

/-- The bytes that can be fetched are all still there in a store of bags, without some places. -/
def Survives (e : Engine) (s : Store) (places : List String) : Prop :=
  ∀ id name index data, e.fetchBlob id name index = .ok data →
    ∃ a b, ({ e with store := s } : Engine).get id = .ok a ∧ a.findBlob name index = .ok b ∧
      e.storage.downloadFirst (.notFound b.itemKey)
        (b.activeLocations.filter fun place => ¬ e.storage.Frees places place) = .ok data

lemma fetchBlob_eq_ok {e : Engine} {id name : String} {index : Option ℕ} {data : List UInt8} :
    e.fetchBlob id name index = .ok data ↔ ∃ a b, e.get id = .ok a ∧ a.findBlob name index = .ok b ∧
      e.storage.downloadFirst (.notFound b.itemKey) b.activeLocations = .ok data := by
  simp only [fetchBlob, readBlob, Artifact.readBlob, Outcome.bind_eq_ok, Outcome.mapError_eq_ok]
  constructor
  · rintro ⟨a, ha, b, hb, hd⟩
    exact ⟨a, b, ha, hb, hd⟩
  · rintro ⟨a, b, ha, hb, hd⟩
    exact ⟨a, ha, b, hb, hd⟩

lemma survives_self (e : Engine) : e.Survives e.store [] := by
  intro id name index data h
  obtain ⟨a, b, ha, hb, hd⟩ := fetchBlob_eq_ok.1 h
  refine ⟨a, b, ha, hb, ?_⟩
  have hfree : ∀ place, ¬ e.storage.Frees [] place := fun place hf => by simpa using hf.2
  simpa [hfree] using hd

variable [ArtifactPredicates]

def released (e : Engine) (id : String) (operations : List Patch.Operation) : List String :=
  match e.get id with
  | .error _ => []
  | .ok a => Draft.releasedBy e.links e.settings.allowedPatches operations ⟨a, e.storage⟩

omit [ArtifactPredicates] in
lemma storage_save (e : Engine) (now : Instant) (a : Artifact) :
    (e.save now a).1.storage = e.storage := by
  rw [save_eq]
  cases e.saved? now a with
  | none => rfl
  | some b => rfl

lemma storage_patch (e : Engine) (now : Instant) (id : String)
    (operations : List Patch.Operation) :
    (e.patch now id operations).1.storage = e.storage.discard (e.released id operations) := by
  rw [patch, released]
  cases e.get id with
  | error fault => rfl
  | ok a =>
    have hp := (Draft.releases_patch e.links e.settings.allowedPatches operations
      ⟨a, e.storage⟩).storage
    dsimp only
    rw [patchArtifact, write]
    rcases hd : Draft.patch e.links e.settings.allowedPatches operations ⟨a, e.storage⟩ with ⟨d, r⟩
    rw [hd] at hp
    cases r with
    | error fault => exact hp
    | ok _ =>
      dsimp only
      rw [storage_save]
      exact hp

/-- After a patch that fails all bytes can be fetched as before exactly if those that its
operations let go of are not needed for that, and the bags that it may have written neither. -/
theorem patch_failed_keeps_iff {e : Engine} {now : Instant} {id : String}
    {operations : List Patch.Operation} {f : Fault}
    (h : (e.patch now id operations).2 = .error f) :
    (e.KeepsBytes (e.patch now id operations).1 ↔
      e.Survives ((e.writes? (.patch now id operations)).elim e.store (e.store.put ·))
        (e.released id operations)) ∧
    ∀ b ∈ e.writes? (.patch now id operations), (e.patch now id operations).1.get b.id = .error f := by
  have hcall : (e.call (.patch now id operations)).2 = .error f := congrArg (Except.map some) h
  refine ⟨?_, fun b hb => get_written hcall hb⟩
  obtain ⟨storage, he⟩ := e.call_engine (.patch now id operations)
  have hstorage := e.storage_patch now id operations
  have he' : (e.patch now id operations).1 = _ := he
  generalize (e.writes? (.patch now id operations)).elim e.store (e.store.put ·) = s at he'
  rw [he'] at hstorage
  obtain rfl : storage = _ := hstorage
  rw [he']
  refine forall_congr' fun id' => forall_congr' fun name => forall_congr' fun index =>
    forall_congr' fun data => imp_congr_right fun _ => ?_
  rw [fetchBlob_eq_ok]
  refine exists_congr fun a => exists_congr fun b => and_congr_right fun _ => and_congr_right fun _ => ?_
  exact e.storage.downloadFirst_discard _ _ _ _ data

end

namespace Sample

attribute [local instance] Predicates.parityAndSize ArtifactPredicates.owned

def image : Blob :=
  ⟨3, none, "a.image", [⟨"memory://a.image", .active⟩]⟩

def pictured : Artifact :=
  (titled.set "image" (some (.blob image))).toOption.get rfl

def gallery : Engine where
  settings := opened.settings
  catalog := opened.catalog
  store := opened.store.put (.ofArtifact pictured)
  storage := (opened.storage.upload "a.image" [1, 2, 3] none).1

def noAttribute : Fault :=
  .path ⟨"/nope", .noAttribute "nope"⟩

lemma get_pictured : gallery.get "a" = .ok pictured := by
  rw [get_leaf (b := .ofArtifact pictured) rfl rfl]
  rfl

lemma patch_nope : gallery.patch ⟨1, 0⟩ "a" [⟨.remove, "/nope", none⟩] =
    (gallery, .error noAttribute) := by
  rw [patch, get_pictured]
  rfl

theorem keepsBytes_nope :
    (gallery.patch ⟨1, 0⟩ "a" [⟨.remove, "/nope", none⟩]).2 = .error noAttribute ∧
      gallery.KeepsBytes (gallery.patch ⟨1, 0⟩ "a" [⟨.remove, "/nope", none⟩]).1 := by
  have h : (gallery.patch ⟨1, 0⟩ "a" [⟨.remove, "/nope", none⟩]).2 = .error noAttribute := by
    rw [patch_nope]
  have hw : gallery.writes? (.patch ⟨1, 0⟩ "a" [⟨.remove, "/nope", none⟩]) = none := by
    rw [writes?, get_pictured]
    rfl
  have hr : gallery.released "a" [⟨.remove, "/nope", none⟩] = [] := by
    rw [released, get_pictured]
    rfl
  refine ⟨h, (patch_failed_keeps_iff h).1.2 ?_⟩
  rw [hw, hr]
  exact gallery.survives_self

def removals : List Patch.Operation :=
  [⟨.remove, "/image", none⟩, ⟨.remove, "/nope", none⟩]

lemma patch_removals : gallery.patch ⟨1, 0⟩ "a" removals =
    ({ gallery with storage := gallery.storage.discard ["memory://a.image"] },
      .error noAttribute) := by
  rw [patch, get_pictured]
  rfl

theorem image_lost : (gallery.patch ⟨1, 0⟩ "a" removals).2 = .error noAttribute ∧
    gallery.fetchBlob "a" "image" none = .ok [1, 2, 3] ∧
    (gallery.patch ⟨1, 0⟩ "a" removals).1.get "a" = .ok pictured ∧
    (gallery.patch ⟨1, 0⟩ "a" removals).1.fetchBlob "a" "image" none =
      .error (.storage (.notFound "memory://a.image")) := by
  have hget : ({ gallery with storage := gallery.storage.discard ["memory://a.image"] } : Engine).get
      "a" = .ok pictured := get_pictured
  rw [patch_removals]
  refine ⟨rfl, ?_, hget, ?_⟩
  · rw [fetchBlob, get_pictured]
    rfl
  · rw [fetchBlob, hget]
    rfl

end Sample

end TypedArtifacts.Engine
