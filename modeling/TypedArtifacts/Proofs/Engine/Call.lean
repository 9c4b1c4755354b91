import TypedArtifacts.Engine
import TypedArtifacts.Proofs.Artifact.Respect
import TypedArtifacts.Proofs.Store

namespace TypedArtifacts

inductive Call (α : Type) where
  | add (a : α)
  | save (now : Instant) (a : α)
  | publish (now : Instant) (a : α)
  | deactivate (now : Instant) (a : α)
  | reactivate (now : Instant) (a : α)
  | remove (now : Instant) (a : α)
  | patch (now : Instant) (id : String) (operations : List Patch.Operation)

namespace Engine

def handing (r : Engine × Except Fault Artifact) : Engine × Except Fault (Option Artifact) :=
  (r.1, r.2.map some)

def saved? (e : Engine) (now : Instant) (a : Artifact) : Option Bag :=
  (e.store.find? a.id).map fun _ => { Bag.ofArtifact a with updatedAt := now }

section

variable [Predicates Artifact]

def written (e : Engine) (b : Bag) : Engine × Except Fault Artifact :=
  e.handOut (e.store.put b, (e.store.put b).fetch b.id)

lemma get_eq (e : Engine) (id : String) :
    e.get id = ((e.store.fetch id).mapError .store >>= Artifact.ofBag e.catalog) := by
  rw [get, Store.get_eq_fetch]

lemma get_leaf {e : Engine} {id : String} {b : Bag} (h : e.store.find? id = some b)
    (hd : b.dependencies = []) : e.get id = Artifact.ofBag e.catalog b := by
  rw [get_eq, Store.fetch_leaf h hd]
  rfl

lemma written_result (e : Engine) (b : Bag) : (e.written b).2 = (e.written b).1.get b.id := by
  rw [get_eq]
  rfl

lemma written_leaf {e : Engine} {b : Bag} {a : Artifact} (hd : b.collapsed.dependencies = [])
    (ha : Artifact.ofBag e.catalog b.collapsed = .ok a) :
    e.written b = ({ e with store := e.store.put b }, .ok a) := by
  have hget : (e.written b).1.get b.id = .ok a := by
    rw [get_leaf (Store.find?_put_self b e.store) hd]
    exact ha
  rw [← hget, ← written_result]
  rfl

lemma add_eq (e : Engine) (a : Artifact) : e.add a =
    if (e.store.find? a.id).isSome then (e, .error (.store (.duplicate a.id)))
    else e.written (.ofArtifact a) := by
  rw [add, Store.add, Bag.ofArtifact_id]
  cases e.store.find? a.id with
  | none => rfl
  | some _ => rfl

lemma save_eq (e : Engine) (now : Instant) (a : Artifact) : e.save now a =
    match e.saved? now a with
    | some b => e.written b
    | none => (e, .error (.store (.notFound a.id))) := by
  rw [save, Store.save, saved?, Bag.ofArtifact_id]
  cases e.store.find? a.id with
  | none => rfl
  | some _ => rfl

lemma publish_eq (e : Engine) (now : Instant) (a : Artifact) : e.publish now a =
    match e.checkPublication a, e.store.find? a.id with
    | .error fault, _ => (e, .error fault)
    | .ok _, none => (e, .error (.store (.notFound a.id)))
    | .ok _, some stored =>
      if stored.state = .creating then
        e.written
          { Bag.ofArtifact a with state := .active, publishedAt := some now, updatedAt := now }
      else (e, .error (.store (.forbidden (.unpublishable a.id stored.state)))) := by
  rw [publish, Store.publish, Bag.ofArtifact_id]
  cases e.checkPublication a with
  | error fault => rfl
  | ok _ =>
    cases e.store.find? a.id with
    | none => rfl
    | some stored =>
      dsimp only
      split <;> rfl

omit [Predicates Artifact] in
lemma remove_eq (e : Engine) (now : Instant) (a : Artifact) : e.remove now a =
    match a.populatedDependencies, e.store.find? a.id with
    | (name, _) :: _, _ => (e, .error (.link (.populated name)))
    | [], none => (e, .error (.store (.notFound a.id)))
    | [], some b =>
      let b := { b with state := .deleted, deletedAt := some now, updatedAt := now }
      ({ e with store := e.store.put b }, .ok ()) := by
  rw [remove, Store.remove]
  cases a.populatedDependencies with
  | cons _ _ => rfl
  | nil =>
    cases e.store.find? a.id with
    | none => rfl
    | some b => rfl

/-- How a call ends: refused, or with a bag in the store, which it reads back unless it removes. -/
inductive Ends (e : Engine) : Option Bag → Engine × Except Fault (Option Artifact) → Prop
  | refused (storage : Storage) (f : Fault) : Ends e none ({ e with storage := storage }, .error f)
  | read (storage : Storage) (b : Bag) : Ends e (some b)
      ({ e with store := e.store.put b, storage := storage },
        (({ e with store := e.store.put b } : Engine).get b.id).map some)
  | removed (storage : Storage) (b : Bag) :
    Ends e (some b) ({ e with store := e.store.put b, storage := storage }, .ok none)

lemma Ends.of_storage {e : Engine} {storage : Storage} {w : Option Bag}
    {r : Engine × Except Fault (Option Artifact)}
    (h : ({ e with storage := storage } : Engine).Ends w r) : e.Ends w r := by
  cases h with
  | refused storage f => exact .refused storage f
  | read storage b => exact .read storage b
  | removed storage b => exact .removed storage b

lemma ends_written (e : Engine) (b : Bag) :
    e.Ends (some b) (handing (e.written b)) := by
  have h : handing (e.written b) =
      ({ e with store := e.store.put b }, ((e.written b).1.get b.id).map some) := by
    rw [← written_result]
    rfl
  rw [h]
  exact .read e.storage b

lemma ends_save (e : Engine) (now : Instant) (a : Artifact) :
    e.Ends (e.saved? now a) (handing (e.save now a)) := by
  rw [save_eq]
  cases e.saved? now a with
  | none => exact .refused e.storage _
  | some b => exact e.ends_written b

lemma ends_move (e : Engine) (wanted next : Lifecycle) (now : Instant) (a : Artifact) :
    e.Ends (if a.state = wanted then e.saved? now { a with state := next } else none)
      (handing (e.move wanted next now a)) := by
  unfold move
  split
  · exact e.ends_save now _
  · exact .refused e.storage _

variable [ArtifactPredicates]

def call (e : Engine) : Call Artifact → Engine × Except Fault (Option Artifact)
  | .add a => handing (e.add a)
  | .save now a => handing (e.save now a)
  | .publish now a => handing (e.publish now a)
  | .deactivate now a => handing (e.deactivate now a)
  | .reactivate now a => handing (e.reactivate now a)
  | .remove now a => (e.remove now a).map id (·.map fun _ => none)
  | .patch now id operations => handing (e.patch now id operations)

def writes? (e : Engine) : Call Artifact → Option Bag
  | .add a => if (e.store.find? a.id).isSome then none else some (.ofArtifact a)
  | .save now a => e.saved? now a
  | .publish now a =>
    match e.checkPublication a, e.store.find? a.id with
    | .ok _, some stored =>
      if stored.state = .creating then
        some { Bag.ofArtifact a with state := .active, publishedAt := some now, updatedAt := now }
      else none
    | _, _ => none
  | .deactivate now a =>
    if a.state = .active then e.saved? now { a with state := .deactivated } else none
  | .reactivate now a =>
    if a.state = .deactivated then e.saved? now { a with state := .active } else none
  | .remove now a =>
    if a.populatedDependencies.isEmpty then
      (e.store.find? a.id).map fun b =>
        { b with state := .deleted, deletedAt := some now, updatedAt := now }
    else none
  | .patch now id operations =>
    match e.get id with
    | .error _ => none
    | .ok a =>
      match e.patchArtifact operations a with
      | (_, a, .ok _) => e.saved? now a
      | (_, _, .error _) => none

theorem ends (e : Engine) (c : Call Artifact) : e.Ends (e.writes? c) (e.call c) := by
  cases c with
  | add a =>
    simp only [call, writes?, add_eq]
    split
    · exact .refused e.storage _
    · exact e.ends_written _
  | save now a => exact e.ends_save now a
  | publish now a =>
    simp only [call, writes?, publish_eq]
    cases e.checkPublication a with
    | error fault => exact .refused e.storage fault
    | ok _ =>
      cases e.store.find? a.id with
      | none => exact .refused e.storage _
      | some stored =>
        dsimp only
        split
        · exact e.ends_written _
        · exact .refused e.storage _
  | deactivate now a => exact e.ends_move _ _ now a
  | reactivate now a => exact e.ends_move _ _ now a
  | remove now a =>
    simp only [call, writes?, remove_eq]
    cases a.populatedDependencies with
    | cons _ _ => exact .refused e.storage _
    | nil =>
      cases e.store.find? a.id with
      | none => exact .refused e.storage _
      | some b => exact .removed e.storage _
  | patch now id operations =>
    simp only [call, writes?, patch]
    cases e.get id with
    | error fault => exact .refused e.storage fault
    | ok a =>
      dsimp only
      rcases hp : e.patchArtifact operations a with ⟨e', a', result⟩
      obtain ⟨storage, rfl⟩ : ∃ storage, e' = { e with storage := storage } :=
        ⟨_, (congrArg Prod.fst hp).symm⟩
      cases result with
      | error fault => exact .refused storage fault
      | ok _ =>
        have hs := ends_save { e with storage := storage } now a'
        exact hs.of_storage

theorem call_engine (e : Engine) (c : Call Artifact) : ∃ storage, (e.call c).1 =
    { e with store := (e.writes? c).elim e.store (e.store.put ·), storage := storage } := by
  have h := e.ends c
  revert h
  generalize e.writes? c = w
  generalize e.call c = r
  intro h
  cases h with
  | refused storage f => exact ⟨storage, rfl⟩
  | read storage b => exact ⟨storage, rfl⟩
  | removed storage b => exact ⟨storage, rfl⟩

lemma call_store (e : Engine) (c : Call Artifact) :
    (e.call c).1.store = (e.writes? c).elim e.store (e.store.put ·) := by
  obtain ⟨storage, h⟩ := e.call_engine c
  rw [h]

lemma get_written {e : Engine} {c : Call Artifact} {f : Fault} {b : Bag}
    (h : (e.call c).2 = .error f) (hb : e.writes? c = some b) :
    (e.call c).1.get b.id = .error f := by
  have he := e.ends c
  rw [hb] at he
  -- How the call ends says all that is needed of it.
  revert he h
  generalize e.call c = r
  intro h he
  cases he with
  | read storage b =>
    cases hg : ({ e with store := e.store.put b } : Engine).get b.id with
    | ok a =>
      rw [hg] at h
      cases h
    | error g =>
      rw [hg] at h
      obtain rfl := Except.error.inj h
      exact hg
  | removed _ b => cases h

/-- A call that fails leaves the stored bags as they were exactly if it is refused before it
writes, or writes what is stored already. A bag that it leaves behind cannot be read. -/
theorem call_failed {e : Engine} {c : Call Artifact} {f : Fault} (h : (e.call c).2 = .error f) :
    ((∀ id, (e.call c).1.store.find? id = e.store.find? id) ↔
      ∀ b ∈ e.writes? c, e.store.find? b.id = some b.collapsed) ∧
    (e.writes? c = none → ∃ storage, (e.call c).1 = { e with storage := storage }) ∧
    ∀ b ∈ e.writes? c, (e.call c).1.store = e.store.put b ∧ (e.call c).1.get b.id = .error f := by
  refine ⟨?_, fun hw => ?_, fun b hb => ⟨?_, get_written h hb⟩⟩
  · rw [call_store]
    cases e.writes? c with
    | none => simp
    | some b => simpa using Store.find?_put_eq_iff
  · obtain ⟨storage, he⟩ := e.call_engine c
    rw [hw] at he
    exact ⟨storage, he⟩
  · rw [call_store, hb, Option.elim_some]

end

namespace Sample

attribute [local instance] Predicates.parityAndSize ArtifactPredicates.owned

def page : Descriptor where
  name := "Page"
  version := "1.0.0"
  attributes := [("title", (Definition.scalar .string).apply .required), ("image", .blob)]

def fresh : Engine :=
  (start {} {}).toOption.get rfl

def opened : Engine :=
  ((fresh.registerType page).toOption.get rfl).1

def untitled : Artifact :=
  (opened.create "Page" none "a" "first" "1.0.0" ⟨0, 0⟩).toOption.get rfl

def titled : Artifact :=
  (untitled.set "title" (some (.string "Emma"))).toOption.get rfl

def noTitle : Fault :=
  .validation ⟨"title", .required, none⟩

lemma add_untitled : (opened.call (.add untitled)).2 = .error noTitle := by
  have hadd : opened.add untitled = opened.written (.ofArtifact untitled) := rfl
  have hget : (opened.written (.ofArtifact untitled)).1.get "a" = .error noTitle := by
    rw [get_leaf (b := .ofArtifact untitled) rfl rfl]
    rfl
  rw [call, hadd, handing, written_result, Bag.ofArtifact_id]
  exact congrArg (Except.map some) hget

/-- A page without a title is refused when it is read back, but stays in the store. -/
theorem untitled_kept : (opened.call (.add untitled)).2 = .error noTitle ∧
    opened.store.find? "a" = none ∧
    (opened.call (.add untitled)).1.store.find? "a" = some (.ofArtifact untitled) :=
  ⟨add_untitled, rfl, rfl⟩

theorem untitled_unreadable : (opened.call (.add untitled)).2 = .error noTitle ∧
    (opened.call (.add untitled)).1.get "a" = .error noTitle :=
  ⟨add_untitled, ((call_failed add_untitled).2.2 _ rfl).2⟩

end Sample

end Engine

end TypedArtifacts
