import TypedArtifacts.Proofs.Artifact.RoundTrip
import TypedArtifacts.Proofs.Assignment.Effects
import TypedArtifacts.Proofs.Definition.Canonical

namespace TypedArtifacts

open Relation (ReflTransGen)

section

variable [Predicates Artifact]

inductive Field.Step (name : String) : Field Artifact → Field Artifact → Prop
  | materialize (f : Field Artifact) : Step name f f.materialize
  | store {f g : Field Artifact} {v : Option (Value Artifact)} : f.store name v = .ok g →
      Step name f g

inductive Artifact.Step : Artifact → Artifact → Prop
  | header (a : Artifact) (h : Header) : Step a { a with toHeader := h }
  | field {a : Artifact} {name : String} {f g : Field Artifact} : a.fields.lookup name = some f →
      ReflTransGen (Field.Step name) f g → Step a (a.withField name g)

structure Artifact.Canonical (t : ArtifactType) (a : Artifact) : Prop where
  definitions : (a.fields.map fun e => (e.1, e.2.definition)) = t.attributes
  stored : ∀ e ∈ a.fields, ∀ v, e.2.stored = some v → e.2.definition.Canonical v
  defaults : ∀ e ∈ a.fields, ∀ v, e.2.definition.default = some v → e.2.definition.Canonical v

lemma Definition.Admitted.label_eq {d : Definition Artifact} {name : String}
    (h : d.Admitted name) : d.label = name := by
  rw [label, h.named, Option.getD_some]

namespace Field

variable {name : String} {f g : Field Artifact}

lemma canonical_default {d : Definition Artifact} (hd : d.Admitted name) {v : Value Artifact}
    (hv : d.default = some v) : d.Canonical v := by
  obtain ⟨w, _, rfl⟩ := hd.built.default_normal v hv
  refine ⟨?_, d.normalize_idem w⟩
  rw [Definition.validate, hd.label_eq]
  exact hd.default_valid _ hv

lemma definition_step (h : Step name f g) : g.definition = f.definition := by
  cases h with
  | materialize => rfl
  | store h =>
    obtain ⟨_, rfl⟩ := store_ok h
    rfl

lemma definition_steps (h : ReflTransGen (Step name) f g) :
    g.definition = f.definition := by
  induction h with
  | refl => rfl
  | tail _ hstep ih => exact (definition_step hstep).trans ih

lemma canonical_step (hd : f.definition.Admitted name)
    (hf : ∀ v, f.stored = some v → f.definition.Canonical v) (h : Step name f g) :
    ∀ v, g.stored = some v → g.definition.Canonical v := by
  intro v hv
  rw [definition_step h]
  cases h with
  | materialize =>
    cases hs : f.stored with
    | some w => exact hf v (by simpa [materialize, value?, hs] using hv)
    | none => exact canonical_default hd (by simpa [materialize, value?, hs] using hv)
  | @store _ u h =>
    obtain ⟨hvalid, rfl⟩ := store_ok h
    cases u with
    | none => cases hv
    | some w =>
      obtain rfl := Option.some.inj hv
      refine ⟨?_, f.definition.normalize_idem w⟩
      rw [Definition.validate, hd.label_eq]
      exact hvalid

lemma canonical_steps (hd : f.definition.Admitted name)
    (hf : ∀ v, f.stored = some v → f.definition.Canonical v)
    (h : ReflTransGen (Step name) f g) :
    g.definition = f.definition ∧ ∀ v, g.stored = some v → g.definition.Canonical v := by
  induction h with
  | refl => exact ⟨rfl, hf⟩
  | tail _ hstep ih =>
    obtain ⟨hdef, hg⟩ := ih
    exact ⟨(definition_step hstep).trans hdef, canonical_step (hdef ▸ hd) hg hstep⟩

end Field

namespace Artifact

variable {t : ArtifactType} {a b : Artifact}

lemma Canonical.admitted (h : a.Canonical t) (ht : t.Declared) {e : String × Field Artifact}
    (he : e ∈ a.fields) : e.2.definition.Admitted e.1 := by
  have hm : (e.1, e.2.definition) ∈ t.attributes := h.definitions ▸ List.mem_map_of_mem he
  exact ht.attributes.2 _ hm

lemma canonical_of_definitions (ht : t.Declared)
    (hd : (a.fields.map fun e => (e.1, e.2.definition)) = t.attributes)
    (hs : ∀ e ∈ a.fields, ∀ v, e.2.stored = some v → e.2.definition.Canonical v) :
    a.Canonical t where
  definitions := hd
  stored := hs
  defaults := by
    intro e he v hv
    have hm : (e.1, e.2.definition) ∈ t.attributes := hd ▸ List.mem_map_of_mem he
    exact Field.canonical_default (ht.attributes.2 _ hm) hv

lemma Canonical.step (h : a.Canonical t) (ht : t.Declared) (hs : Step a b) : b.Canonical t := by
  cases hs with
  | header => exact ⟨h.definitions, h.stored, h.defaults⟩
  | @field name f g hf hg =>
    have hm := Dict.mem_of_lookup hf
    have hsorted : Dict.Sorted a.fields := by
      have hsorted : Dict.Sorted (a.fields.map fun e => (e.1, e.2.definition)) :=
        h.definitions ▸ ht.attributes.1
      exact Dict.sorted_of_map (fun _ f => f.definition) hsorted
    obtain ⟨hdef, hcanonical⟩ := Field.canonical_steps (h.admitted ht hm) (h.stored _ hm) hg
    refine canonical_of_definitions ht
      ((definitions_withField hsorted hf hdef).trans h.definitions) fun e he => ?_
    rcases mem_withField he with rfl | he
    · exact hcanonical
    · exact h.stored e he

theorem Canonical.steps (h : a.Canonical t) (ht : t.Declared) (hs : ReflTransGen Step a b) :
    b.Canonical t := by
  induction hs with
  | refl => exact h
  | tail _ hstep ih => exact ih.step ht hstep

lemma steps_field {name : String} {f g : Field Artifact} (hf : a.fields.lookup name = some f)
    (hg : Field.Step name f g) : ReflTransGen Step a (a.withField name g) :=
  .single (.field hf (.single hg))

lemma steps_get {name : String} {v : Option (Value Artifact)} (h : a.get name = .ok (b, v)) :
    ReflTransGen Step a b := by
  obtain ⟨f, hf, rfl⟩ := get_ok h
  exact steps_field hf (.materialize f)

lemma steps_storeAll {values : List (String × Option (Value Artifact))}
    (h : storeAll a values = .ok b) : ReflTransGen Step a b := by
  induction values generalizing a with
  | nil =>
    obtain rfl := Except.ok.inj h
    exact .refl
  | cons e values ih =>
    obtain ⟨name, v⟩ := e
    obtain ⟨f, hf, h⟩ := Outcome.bind_eq_ok.1 h
    obtain ⟨g, hg, h⟩ := Outcome.bind_eq_ok.1 h
    exact (steps_field (findField_ok hf) (.store hg)).trans (ih h)

section

variable [ArtifactPredicates]

lemma steps_set {name : String} {v : Option (Value Artifact)} (h : a.set name v = .ok b) :
    ReflTransGen Step a b := by
  obtain ⟨f, g, hf, _, hstore, rfl⟩ := set_ok h
  exact steps_field hf (.store hstore)

end

end Artifact

namespace Guard

def editAll {α : Type}
    (edit : α → Guard → Except ValidationError (Guard × Option (Value Artifact)))
    (edits : List α) (g : Guard) : Guard :=
  edits.foldl (fun g x => match edit x g with
    | .ok (g, _) => g
    | .error _ => g) g

def Edits (g h : Guard) : Prop :=
  h.name = g.name ∧ ReflTransGen (Field.Step g.name) g.field h.field

variable {g h : Guard}

lemma edits_replace {v : Value Artifact} (hr : g.replace v = .ok h) : g.Edits h := by
  obtain ⟨f, hf, rfl⟩ := replace_ok hr
  exact ⟨rfl, .single (.store hf)⟩

lemma edits_editList {edit : ListEdit} {taken : Option (Value Artifact)}
    (he : g.editList edit = .ok (h, taken)) : g.Edits h := by
  obtain ⟨_, _, hr⟩ := editList_ok he
  exact edits_replace hr

lemma edits_editDict {edit : DictEdit} {previous : Option (Value Artifact)}
    (he : g.editDict edit = .ok (h, previous)) : g.Edits h :=
  edits_replace (editDict_ok he)

lemma edits_editAll {α : Type}
    {edit : α → Guard → Except ValidationError (Guard × Option (Value Artifact))}
    (hedit : ∀ x g h taken, edit x g = .ok (h, taken) → g.Edits h) (edits : List α) (g : Guard) :
    g.Edits (g.editAll edit edits) := by
  induction edits generalizing g with
  | nil => exact ⟨rfl, .refl⟩
  | cons x edits ih =>
    change g.Edits (Guard.editAll edit edits (match edit x g with
      | .ok (g, _) => g
      | .error _ => g))
    cases hx : edit x g with
    | error e => exact ih g
    | ok r =>
      obtain ⟨h, taken⟩ := r
      obtain ⟨hname, hsteps⟩ := hedit x g h taken hx
      obtain ⟨hname', hsteps'⟩ := ih h
      exact ⟨hname'.trans hname, hsteps.trans (hname ▸ hsteps')⟩

end Guard

namespace Artifact

variable [ArtifactPredicates] {a b : Artifact}

lemma steps_close {name : String} {f : Field Artifact} (hf : a.fields.lookup name = some f)
    {g : Guard} (hg : (a.guard name f).Edits g) : ReflTransGen Step a (a.close g) := by
  obtain ⟨hname, hsteps⟩ := hg
  unfold Artifact.close
  rw [hname]
  exact .single (.field hf (.head (.materialize f) hsteps))

lemma steps_editList {name : String} {edit : ListEdit} {taken : Option (Value Artifact)}
    (h : a.editList name edit = .ok (b, taken)) : ReflTransGen Step a b := by
  obtain ⟨g, g', hg, he, rfl⟩ := editList_ok h
  obtain ⟨f, hf, rfl⟩ := openList_ok hg
  exact steps_close hf (Guard.edits_editList he)

lemma Writes.steps {name : String} {r : Except Fault Unit} (h : Writes name a b r) :
    ReflTransGen Step a b := by
  cases r with
  | ok _ =>
    obtain ⟨v, hv⟩ := h
    exact steps_set hv
  | error e => exact h ▸ .refl

lemma EditsList.steps {name : String} {r : Except Fault Unit} (h : EditsList name a b r) :
    ReflTransGen Step a b := by
  cases r with
  | ok _ =>
    obtain ⟨edit, taken, he⟩ := h
    exact steps_editList he
  | error e => exact h ▸ .refl

end Artifact

namespace Desk

def holding {ε : Type} (d : Desk) : Except ε Artifact → Desk
  | .ok a => { d with artifact := a }
  | .error _ => d

lemma steps_holding {ε : Type} {d : Desk} {r : Except ε Artifact}
    (h : ∀ a, r = .ok a → ReflTransGen Artifact.Step d.artifact a) :
    ReflTransGen Artifact.Step d.artifact (d.holding r).artifact := by
  cases r with
  | ok a => exact h a rfl
  | error e => exact .refl

variable [ArtifactPredicates]

lemma steps_operation (layers : List Layer) (operation : Patch.Operation) (d : Desk) :
    ReflTransGen Artifact.Step d.artifact (d.applyOperation layers operation).1.artifact := by
  rw [applyOperation]
  cases operation.input d.artifact with
  | error e => exact .refl
  | ok x => exact (writes_assign layers x.1 x.2 d).steps

lemma steps_patch (layers : List Layer) (allowed : List Patch.Verb)
    (operations : List Patch.Operation) (d : Desk) :
    ReflTransGen Artifact.Step d.artifact (d.patch layers allowed operations).1.artifact := by
  induction operations generalizing d with
  | nil => exact .refl
  | cons operation rest ih =>
    rw [patch]
    cases operation.checkAllowed allowed with
    | error e => exact .refl
    | ok _ =>
      have hstep := steps_operation layers operation d
      dsimp only
      rcases hx : d.applyOperation layers operation with ⟨d', r⟩
      rw [hx] at hstep
      cases r with
      | ok _ => exact hstep.trans (ih d')
      | error e => exact hstep

inductive Action where
  | header (h : Header)
  | get (name : String)
  | set (name : String) (v : Option (Value Artifact))
  | editList (name : String) (edits : List ListEdit)
  | editDict (name : String) (edits : List DictEdit)
  | assign (layers : List Layer) (name : String) (input : Input)
  | appendBlob (storage : Nat) (name : String) (u : Upload)
  | insertBlob (storage : Nat) (name : String) (index : Nat) (u : Upload)
  | replaceBlob (storage : Nat) (name : String) (index : Nat) (u : Upload)
  | removeBlob (storage : Nat) (name : String) (index : Nat)
  | patch (layers : List Layer) (allowed : List Patch.Verb) (operations : List Patch.Operation)

def perform (d : Desk) : Action → Desk
  | .header h => { d with artifact := { d.artifact with toHeader := h } }
  | .get name => d.holding ((d.artifact.get name).map (·.1))
  | .set name v => d.holding (d.artifact.set name v)
  | .editList name edits =>
    d.holding ((d.artifact.openList name).map fun g =>
      d.artifact.close (g.editAll Guard.editList edits))
  | .editDict name edits =>
    d.holding ((d.artifact.openDict name).map fun g =>
      d.artifact.close (g.editAll Guard.editDict edits))
  | .assign layers name input => (d.assign layers name input).1
  | .appendBlob i name u => (d.on i (·.appendBlob name u)).1
  | .insertBlob i name index u => (d.on i (·.insertBlob name index u)).1
  | .replaceBlob i name index u => (d.on i (·.replaceBlob name index u)).1
  | .removeBlob i name index => (d.on i (·.removeBlob name index)).1
  | .patch layers allowed operations => (d.patch layers allowed operations).1

lemma steps_perform (d : Desk) (action : Action) :
    ReflTransGen Artifact.Step d.artifact (d.perform action).artifact := by
  cases action with
  | header h => exact .single (.header d.artifact h)
  | get name =>
    apply steps_holding
    intro a ha
    obtain ⟨r, hg, rfl⟩ := Outcome.map_eq_ok.1 ha
    exact Artifact.steps_get hg
  | set name v => exact steps_holding fun a ha => Artifact.steps_set ha
  | editList name edits =>
    apply steps_holding
    intro a ha
    obtain ⟨g, ho, rfl⟩ := Outcome.map_eq_ok.1 ha
    obtain ⟨f, hf, rfl⟩ := Artifact.openList_ok ho
    exact Artifact.steps_close hf
      (Guard.edits_editAll (fun _ _ _ _ he => Guard.edits_editList he) edits _)
  | editDict name edits =>
    apply steps_holding
    intro a ha
    obtain ⟨g, ho, rfl⟩ := Outcome.map_eq_ok.1 ha
    obtain ⟨f, hf, rfl⟩ := Artifact.openDict_ok ho
    exact Artifact.steps_close hf
      (Guard.edits_editAll (fun _ _ _ _ he => Guard.edits_editDict he) edits _)
  | assign layers name input => exact (writes_assign layers name input d).steps
  | appendBlob i name u => exact (Draft.editsList_uploadItem name .append none u (d.draft i)).steps
  | insertBlob i name index u =>
    exact (Draft.editsList_uploadItem name (.insert index) none u (d.draft i)).steps
  | replaceBlob i name index u =>
    exact (Draft.editsList_uploadItem name (.setItem index) (some index) u (d.draft i)).steps
  | removeBlob i name index => exact (Draft.editsList_removeBlob name index (d.draft i)).steps
  | patch layers allowed operations => exact steps_patch layers allowed operations d

lemma steps_run (actions : List Action) (d : Desk) :
    ReflTransGen Artifact.Step d.artifact (actions.foldl perform d).artifact := by
  induction actions generalizing d with
  | nil => exact .refl
  | cons action actions ih => exact (steps_perform d action).trans (ih (d.perform action))

end Desk

namespace Artifact

inductive Made (c : Catalog) (t : ArtifactType) : Artifact → Prop
  | blank (id : String) (now : Instant) : Made c t (.blank t id now)
  | create {id name version : String} {now : Instant} {a : Artifact} :
      Artifact.create t id name version now = .ok a → Made c t a
  | ofValues {id : String} {now : Instant} {values : Values} {a : Artifact} :
      Artifact.ofValues t id now values = .ok a → Made c t a
  | ofBag {b : Bag} {a : Artifact} : c.byName b.typeName (some b.typeVersion) = .ok t →
      Artifact.ofBag c b = .ok a → Made c t a

variable {t : ArtifactType} {a : Artifact}

lemma canonical_blank (ht : t.Declared) (id : String) (now : Instant) :
    (blank t id now).Canonical t := by
  refine canonical_of_definitions ht ?_ fun e he v hv => ?_
  · simp [blank, Dict.mapValues, Field.blank, Function.comp_def]
  · obtain ⟨x, _, rfl⟩ := List.mem_map.1 he
    cases hv

lemma Canonical.seedDefaults (h : a.Canonical t) (ht : t.Declared) :
    a.seedDefaults.Canonical t := by
  refine canonical_of_definitions ht ?_ fun e he v hv => ?_
  · rw [← h.definitions]
    simp [Artifact.seedDefaults, Dict.mapValues, Field.materialize, Function.comp_def]
  · obtain ⟨x, hx, rfl⟩ := List.mem_map.1 he
    exact Field.canonical_step (h.admitted ht hx) (h.stored x hx) (.materialize x.2) v hv

lemma canonical_ofValues (ht : t.Declared) {id : String} {now : Instant} {values : Values}
    (h : ofValues t id now values = .ok a) : a.Canonical t :=
  ((canonical_blank ht id now).seedDefaults ht).steps ht (steps_storeAll (ofValues_ok h).1)

lemma canonical_ofBag {c : Catalog} {b : Bag} (ht : t.Declared)
    (hn : c.byName b.typeName (some b.typeVersion) = .ok t) (h : ofBag c b = .ok a) :
    a.Canonical t := by
  obtain ⟨u, _, _, _, x, hu, _, _, _, hx, rfl⟩ := ofBag_values h
  obtain rfl : t = u := Except.ok.inj (hn.symm.trans hu)
  exact (canonical_ofValues ht hx).step ht (.header x b.toHeader)

lemma Made.canonical {c : Catalog} (ht : t.Declared) (h : a.Made c t) : a.Canonical t := by
  cases h with
  | blank id now => exact canonical_blank ht id now
  | @create id _ _ now _ h =>
    unfold Artifact.create at h
    split at h
    · obtain rfl := Except.ok.inj h
      exact ((canonical_blank ht id now).seedDefaults ht).step ht (.header _ _)
    · cases h
  | ofValues h => exact canonical_ofValues ht h
  | ofBag hn h => exact canonical_ofBag ht hn h

theorem canonical_run [ArtifactPredicates] {c : Catalog} (hc : c.Registered) (ht : t ∈ c.types)
    (h : a.Made c t) (actions : List Desk.Action) (storages : Nat → Storage) :
    (actions.foldl Desk.perform ⟨a, storages⟩).artifact.Canonical t :=
  (h.canonical (hc.declared t ht)).steps (hc.declared t ht)
    (Desk.steps_run actions ⟨a, storages⟩)

end Artifact

end

namespace Artifact.Sample

attribute [local instance] Predicates.parityAndSize ArtifactPredicates.owned

def actions : List Desk.Action :=
  [.set "counts" (some rooms),
    .editList "books" [.setItem 3 (.artifact novel), .append (.artifact novel)],
    .assign [.update [.add], .location 0] "counts" (.value none)]

theorem canonical_run_bare : catalog.Registered ∧ shelfType ∈ catalog.types ∧
    bare.Made catalog shelfType ∧
    (actions.foldl Desk.perform ⟨bare, fun _ => {}⟩).artifact.Canonical shelfType ∧
    (actions.foldl Desk.perform ⟨bare, fun _ => {}⟩).artifact.peek "books" =
      some (.list [.artifact novel]) := by
  have ht : shelfType ∈ catalog.types := by simp [catalog]
  have hm : bare.Made catalog shelfType :=
    .create (show create shelfType "s" "shelf" "1.0.0" start = .ok bare from rfl)
  exact ⟨registered, ht, hm, canonical_run registered ht hm actions fun _ => {}, rfl⟩

end Artifact.Sample

end TypedArtifacts
