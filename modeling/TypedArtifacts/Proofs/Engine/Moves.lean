import TypedArtifacts.Proofs.Artifact.Canonical
import TypedArtifacts.Proofs.Patch.Batch

/-! Runs of an engine that hands out dependencies too, and what they leave in the store: bags under
their own ids, with nothing but ids as dependencies, and of registered types if the calls are. -/

namespace TypedArtifacts

open Relation (ReflTransGen)

namespace Artifact

def OfType (c : Catalog) (a : Artifact) : Prop :=
  ∃ t ∈ c.types, a.type = t.toTypeHeader ∧ a.definitions = t.attributes

end Artifact

def Bag.OfType (c : Catalog) (b : Bag) : Prop :=
  ∃ t ∈ c.types, b.typeName = t.name ∧ b.typeVersion = t.version ∧
    (Dict.keys b.dependencies).Nodup ∧
    ∀ p ∈ b.dependencies, ∃ d, (p.1, d) ∈ t.attributes ∧ d.role = .dependency

lemma Bag.OfType.collapsed {c : Catalog} {b : Bag} (h : b.OfType c) : b.collapsed.OfType c := by
  obtain ⟨t, ht, hname, hversion, hn, hrole⟩ := h
  refine ⟨t, ht, hname, hversion, ?_, fun p hp => ?_⟩
  · have hkeys : Dict.keys b.collapsed.dependencies = Dict.keys b.dependencies := by
      simp [Bag.collapsed, Dict.keys, Dict.mapValues, Function.comp_def]
    rwa [hkeys]
  · obtain ⟨q, hq, rfl⟩ := List.mem_map.1 hp
    exact hrole q hq

section

variable [Predicates Artifact]

namespace Artifact

variable {c : Catalog} {a b : Artifact}

lemma OfType.sorted (hc : c.Registered) (h : a.OfType c) : Dict.Sorted a.fields := by
  obtain ⟨t, ht, _, hd⟩ := h
  exact sorted_fields (hd ▸ (hc.declared t ht).attributes.1)

lemma OfType.steps (hc : c.Registered) (h : a.OfType c) (hs : ReflTransGen Step a b) :
    b.OfType c := by
  induction hs with
  | refl => exact h
  | @tail x y _ hstep ih =>
    have hsorted := ih.sorted hc
    obtain ⟨t, ht, htype, hd⟩ := ih
    cases hstep with
    | header => exact ⟨t, ht, htype, hd⟩
    | field hf hg =>
      exact ⟨t, ht, htype, (definitions_withField hsorted hf (Field.definition_steps hg)).trans hd⟩

lemma ofType_ofBag (hc : c.Registered) {y : Bag} (h : ofBag c y = .ok a) : a.OfType c := by
  obtain ⟨t, ps, bs, ds, b, hname, _, _, _, hb, rfl⟩ := ofBag_eq_ok h
  obtain ⟨ht, _⟩ := Catalog.mem_of_byName hname
  have hnew := (coherent_blank (hc.declared t ht) y.id y.createdAt).seedDefaults
  have hold : ((blank t y.id y.createdAt).seedDefaults).OfType c :=
    ⟨t, ht, hnew.type_eq, hnew.definitions⟩
  obtain ⟨u, hu, htype, hd⟩ := hold.steps hc (steps_storeAll hb)
  exact ⟨u, hu, htype, hd⟩

lemma OfType.bag (hc : c.Registered) (h : a.OfType c) : (Bag.ofArtifact a).OfType c := by
  have hsorted := h.sorted hc
  obtain ⟨t, ht, htype, hd⟩ := h
  refine ⟨t, ht, congrArg TypeHeader.name htype, congrArg TypeHeader.version htype, ?_, ?_⟩
  · have hs : Dict.Sorted (a.fieldsOf .dependency) := hsorted.filter _
    exact hs.nodup.sublist
      (Dict.keys_filterMap (fun _ (f : Field Artifact) => Bag.itemsOf _ f.value?) _)
  · intro p hp
    obtain ⟨f, hf, _⟩ := Sound.mem_selected.1 hp
    obtain ⟨hm, hrole⟩ := mem_fieldsOf.1 hf
    exact ⟨f.definition, hd ▸ List.mem_map_of_mem hm, hrole⟩

end Artifact

end

namespace Store

structure Orderly (s : Store) : Prop where
  sorted : Dict.Sorted s.bags
  own : ∀ e ∈ s.bags, e.2.id = e.1
  collapsed : ∀ e ∈ s.bags, e.2.collapsed = e.2

variable {s : Store}

lemma orderly_of_empty (h : s.bags = []) : s.Orderly :=
  ⟨h ▸ .nil, by simp [h], by simp [h]⟩

lemma Orderly.put (h : s.Orderly) (b : Bag) : (s.put b).Orderly := by
  refine ⟨h.sorted.insert _ _, fun e he => ?_, fun e he => ?_⟩
  · rcases Dict.mem_insert he with rfl | he
    · rfl
    · exact h.own e he
  · rcases Dict.mem_insert he with rfl | he
    · exact Bag.collapsed_collapsed b
    · exact h.collapsed e he

lemma Orderly.keyed (h : s.Orderly) : s.Keyed :=
  fun _ _ hb => h.own _ (Dict.mem_of_lookup hb)

lemma Orderly.find?_of_mem (h : s.Orderly) {b : Bag} (hb : b ∈ Dict.values s.bags) :
    s.find? b.id = some b := by
  obtain ⟨e, he, rfl⟩ := List.mem_map.1 hb
  rw [h.own e he]
  exact Dict.lookup_of_mem h.sorted.nodup he

lemma Orderly.collapsed_of_find? (h : s.Orderly) {id : String} {b : Bag}
    (hb : s.find? id = some b) : b.collapsed = b :=
  h.collapsed _ (Dict.mem_of_lookup hb)

end Store

inductive Move where
  | act (action : Action)
  | dependencies (handle : ℕ) (name : String)

namespace Session

variable [Predicates Artifact] [ArtifactPredicates]

def move (s : Session) : Move → Session
  | .act action => s.step action
  | .dependencies i name =>
    { s with handles := s.handles ++ s.handles[i]?.elim [] (Engine.dependencies · name) }

def run (s : Session) (moves : List Move) : Session :=
  moves.foldl move s

def moveCall? (s : Session) : Move → Option (Call Artifact)
  | .act action => s.call? action
  | .dependencies _ _ => none

def stores? (s : Session) (m : Move) : Option Bag :=
  (s.moveCall? m).bind s.engine.writes?

def Along (P : Session → Move → Prop) : Session → List Move → Prop
  | _, [] => True
  | s, m :: ms => P s m ∧ Along P (s.move m) ms

lemma run_append (s : Session) (before after : List Move) :
    s.run (before ++ after) = (s.run before).run after :=
  List.foldl_append

lemma move_store (s : Session) (m : Move) :
    (s.move m).engine.store = (s.stores? m).elim s.engine.store (s.engine.store.put ·) := by
  cases m with
  | act action => exact s.step_store action
  | dependencies i name => rfl

lemma move_catalog (s : Session) (m : Move) : (s.move m).engine.catalog = s.engine.catalog := by
  cases m with
  | dependencies i name => rfl
  | act action =>
    cases action with
    | call c =>
      simp only [move, step]
      cases c.resolve? s.handles with
      | none => rfl
      | some c =>
        obtain ⟨storage, he⟩ := s.engine.call_engine c
        change (s.engine.call c).1.catalog = s.engine.catalog
        rw [he]
    | setAttribute i name input =>
      simp only [move, step]
      cases s.handles[i]? with
      | none => rfl
      | some a => rfl
    | _ => rfl

lemma run_catalog (s : Session) (moves : List Move) :
    (s.run moves).engine.catalog = s.engine.catalog := by
  induction moves generalizing s with
  | nil => rfl
  | cons m moves ih => exact (ih (s.move m)).trans (s.move_catalog m)

lemma orderly_move {s : Session} (h : s.engine.store.Orderly) (m : Move) :
    (s.move m).engine.store.Orderly := by
  rw [move_store]
  cases s.stores? m with
  | none => exact h
  | some b => exact h.put b

lemma orderly_run {s : Session} (h : s.engine.store.Orderly) (moves : List Move) :
    (s.run moves).engine.store.Orderly := by
  induction moves generalizing s with
  | nil => exact h
  | cons m moves ih => exact ih (orderly_move h m)

lemma find?_run_of_untouched {s : Session} {id : String} {moves : List Move}
    (h : Along (fun s m => ∀ b ∈ s.stores? m, b.id ≠ id) s moves) :
    (s.run moves).engine.store.find? id = s.engine.store.find? id := by
  induction moves generalizing s with
  | nil => rfl
  | cons m moves ih =>
    refine (ih h.2).trans ?_
    rw [move_store]
    cases hb : s.stores? m with
    | none => rfl
    | some b => exact Store.find?_put_of_ne (h.1 b hb).symm _

end Session

namespace Call

def handle? {α : Type} : Call α → Option α
  | .add a => some a
  | .save _ a => some a
  | .publish _ a => some a
  | .deactivate _ a => some a
  | .reactivate _ a => some a
  | .remove _ a => some a
  | .patch _ _ _ => none

end Call

namespace Engine

def Typed (e : Engine) : Prop :=
  ∀ id b, e.store.find? id = some b → b.OfType e.catalog

lemma typed_of_empty {e : Engine} (h : e.store.bags = []) : e.Typed := by
  intro id b hb
  rw [Store.find?, h] at hb
  cases hb

variable [Predicates Artifact]

lemma ofType_saved {e : Engine} (hc : e.catalog.Registered) {now : Instant} {a : Artifact}
    (ha : a.OfType e.catalog) {b : Bag} (hb : e.saved? now a = some b) : b.OfType e.catalog := by
  obtain ⟨_, _, rfl⟩ := Option.map_eq_some_iff.1 hb
  exact ha.bag hc

variable [ArtifactPredicates]

lemma ofType_patched {e : Engine} (hc : e.catalog.Registered) {a : Artifact}
    (ha : a.OfType e.catalog) (operations : List Patch.Operation) :
    (e.patchArtifact operations a).2.1.OfType e.catalog := by
  rw [patchArtifact_eq]
  exact ha.steps hc (Desk.steps_patch e.layers e.settings.allowedPatches operations (e.desk a))

lemma ofType_writes {e : Engine} (hc : e.catalog.Registered) (ht : e.Typed) {c : Call Artifact}
    (ha : ∀ a ∈ c.handle?, a.OfType e.catalog) {b : Bag} (hb : e.writes? c = some b) :
    b.OfType e.catalog := by
  cases c with
  | add a =>
    rw [writes?] at hb
    split at hb
    · cases hb
    · obtain rfl := Option.some.inj hb
      exact (ha a rfl).bag hc
  | save now a => exact ofType_saved hc (ha a rfl) hb
  | publish now a =>
    simp only [writes?] at hb
    split at hb
    · split at hb
      · obtain rfl := Option.some.inj hb
        exact (ha a rfl).bag hc
      · cases hb
    · cases hb
  | deactivate now a =>
    simp only [writes?] at hb
    split at hb
    · exact ofType_saved hc (show ({ a with state := .deactivated } : Artifact).OfType _ from
        ha a rfl) hb
    · cases hb
  | reactivate now a =>
    simp only [writes?] at hb
    split at hb
    · exact ofType_saved hc (show ({ a with state := .active } : Artifact).OfType _ from
        ha a rfl) hb
    · cases hb
  | remove now a =>
    simp only [writes?] at hb
    split at hb
    · obtain ⟨stored, hs, rfl⟩ := Option.map_eq_some_iff.1 hb
      have hstored : stored.OfType e.catalog := ht _ _ hs
      exact hstored
    · cases hb
  | patch now id operations =>
    simp only [writes?] at hb
    cases hg : e.get id with
    | error f => simp [hg] at hb
    | ok a =>
      rw [get_eq] at hg
      obtain ⟨y, _, hread⟩ := Outcome.bind_eq_ok.1 hg
      have hpatched := ofType_patched hc (Artifact.ofType_ofBag hc hread) operations
      rw [← get_eq] at hg
      rcases hp : e.patchArtifact operations a with ⟨e', x, f | _⟩
      · simp [hg, hp] at hb
      · simp only [hg, hp] at hb
        rw [hp] at hpatched
        exact ofType_saved hc hpatched hb

end Engine

namespace Session

variable [Predicates Artifact] [ArtifactPredicates]

def OnTypes (s : Session) (m : Move) : Prop :=
  ∀ c ∈ s.moveCall? m, ∀ a ∈ c.handle?, a.OfType s.engine.catalog

lemma typed_move {s : Session} (hc : s.engine.catalog.Registered) (h : s.engine.Typed) {m : Move}
    (hm : s.OnTypes m) : (s.move m).engine.Typed := by
  intro id b hb
  rw [move_catalog]
  rw [move_store] at hb
  cases hw : s.stores? m with
  | none =>
    rw [hw] at hb
    exact h id b hb
  | some w =>
    rw [hw, Option.elim_some, Store.find?_put] at hb
    split at hb
    · obtain rfl := Option.some.inj hb
      obtain ⟨c, hcall, hwrites⟩ := Option.bind_eq_some_iff.1 hw
      exact (Engine.ofType_writes hc h (hm c hcall) hwrites).collapsed
    · exact h id b hb

lemma typed_run {s : Session} (hc : s.engine.catalog.Registered) (h : s.engine.Typed)
    {moves : List Move} (hm : Along OnTypes s moves) : (s.run moves).engine.Typed := by
  induction moves generalizing s with
  | nil => exact h
  | cons m moves ih =>
    have hc' : (s.move m).engine.catalog.Registered := (s.move_catalog m).symm ▸ hc
    exact ih hc' (typed_move hc h hm.1) hm.2

end Session

end TypedArtifacts
