import TypedArtifacts.Proofs.Artifact.Frozen
import TypedArtifacts.Proofs.Patch

namespace TypedArtifacts

namespace Artifact

def Stores (name : String) (v : Value Artifact) (a : Artifact) : Prop :=
  ∃ f, a.fields.lookup name = some f ∧ f.stored = some v

def Defines (name : String) (p : Definition Artifact) (a : Artifact) : Prop :=
  ∃ f, a.fields.lookup name = some f ∧ f.definition = p

def Sealed (name : String) (a : Artifact) : Prop :=
  ∃ f, a.fields.lookup name = some f ∧ f.definition.readonly = true ∧ f.assigned = true

variable {name n : String} {v : Value Artifact} {p : Definition Artifact} {a b : Artifact}
  {f : Field Artifact}

lemma Stores.peek_eq (h : a.Stores name v) : a.peek name = some v := by
  obtain ⟨f, hf, hv⟩ := h
  simp [peek, field?, hf, Field.value?, hv]

lemma Sealed.keeps (h : a.Sealed name) (hb : Keeps name a b) : b.Sealed name := by
  obtain ⟨f, hf, hr, ha⟩ := h
  obtain ⟨g, hg, hfg⟩ := hb f hf
  exact ⟨g, hg, hfg.definition ▸ hr, hfg.assigned.trans ha⟩

lemma Sealed.isReadOnly [ArtifactPredicates] (h : a.Sealed name) : a.isReadOnly name = true := by
  obtain ⟨f, hf, hr, ha⟩ := h
  simp [isReadOnly_of_lookup hf, Field.isReadOnly, hr, ha]

end Artifact

namespace Guard

lemma editAll_append {α : Type}
    (edit : α → Guard → Except ValidationError (Guard × Option (Value Artifact)))
    (before after : List α) (g : Guard) :
    g.editAll edit (before ++ after) = (g.editAll edit before).editAll edit after :=
  List.foldl_append

lemma editAll_cons_ok {α : Type}
    {edit : α → Guard → Except ValidationError (Guard × Option (Value Artifact))} {x : α}
    {g h : Guard} {taken : Option (Value Artifact)} (h' : edit x g = .ok (h, taken)) (edits : List α) :
    g.editAll edit (x :: edits) = h.editAll edit edits := by
  rw [editAll, List.foldl_cons, h']
  rfl

end Guard

section

variable [Predicates Artifact]

namespace Field

variable {name : String} {f g : Field Artifact}

lemma assigned_step (h : Step name f g) (hf : f.assigned = true) : g.assigned = true := by
  cases h with
  | materialize => exact hf
  | store h =>
    obtain ⟨_, rfl⟩ := store_ok h
    simp [commit, hf]

lemma assigned_steps (h : Relation.ReflTransGen (Step name) f g) (hf : f.assigned = true) :
    g.assigned = true := by
  induction h with
  | refl => exact hf
  | tail _ hstep ih => exact assigned_step hstep ih

lemma assigned_store {v : Option (Value Artifact)} (h : f.store name v = .ok g)
    (hr : f.definition.readonly = true) (hv : g.stored.isSome = true) : g.assigned = true := by
  obtain ⟨_, rfl⟩ := store_ok h
  simp only [commit] at hv ⊢
  simp [hr, hv]

end Field

namespace Artifact

variable {name n : String} {p : Definition Artifact} {a b : Artifact}

lemma Defines.step (h : a.Defines name p) (hs : Step a b) : b.Defines name p := by
  obtain ⟨f, hf, hp⟩ := h
  cases hs with
  | header => exact ⟨f, hf, hp⟩
  | @field n f' g hf' hg =>
    by_cases hn : name = n
    · subst hn
      obtain rfl : f = f' := Option.some.inj (hf.symm.trans hf')
      exact ⟨g, lookup_withField hf g, (Field.definition_steps hg).trans hp⟩
    · exact ⟨f, (lookup_withField_of_ne hn g).trans hf, hp⟩

lemma Defines.steps (h : a.Defines name p) (hs : Relation.ReflTransGen Step a b) :
    b.Defines name p := by
  induction hs with
  | refl => exact h
  | tail _ hstep ih => exact ih.step hstep

end Artifact

namespace Guard

variable {g h : Guard}

lemma assigned_replace {v : Value Artifact} (hr : g.field.definition.readonly = true)
    (h' : g.replace v = .ok h) : h.field.assigned = true := by
  obtain ⟨f, hf, rfl⟩ := replace_ok h'
  obtain ⟨_, rfl⟩ := Field.store_ok hf
  exact Field.assigned_store hf hr rfl

lemma assigned_editList {edit : ListEdit} {taken : Option (Value Artifact)}
    (hr : g.field.definition.readonly = true) (he : g.editList edit = .ok (h, taken)) :
    h.field.assigned = true := by
  obtain ⟨_, _, hg⟩ := editList_ok he
  exact assigned_replace hr hg

lemma assigned_editDict {edit : DictEdit} {previous : Option (Value Artifact)}
    (hr : g.field.definition.readonly = true) (he : g.editDict edit = .ok (h, previous)) :
    h.field.assigned = true :=
  assigned_replace hr (editDict_ok he)

end Guard

section

variable [ArtifactPredicates]

namespace Artifact

variable {name : String} {v : Value Artifact} {a b : Artifact} {f : Field Artifact}
  {p : Definition Artifact}

lemma sealed_session {α : Type}
    {edit : α → Guard → Except ValidationError (Guard × Option (Value Artifact))}
    (hedit : ∀ x g h taken, edit x g = .ok (h, taken) → g.Edits h)
    (hassigned : ∀ x g h taken, g.field.definition.readonly = true →
      edit x g = .ok (h, taken) → h.field.assigned = true)
    (hf : a.fields.lookup name = some f) (hr : f.definition.readonly = true)
    {before after : List α} {x : α} {r : Guard × Option (Value Artifact)}
    (hx : edit x ((a.guard name f).editAll edit before) = .ok r) :
    (a.close ((a.guard name f).editAll edit (before ++ x :: after))).Sealed name := by
  obtain ⟨h, taken⟩ := r
  obtain ⟨hname, hsteps⟩ := Guard.edits_editAll hedit before (a.guard name f)
  obtain ⟨hname', hsteps'⟩ := hedit _ _ _ _ hx
  obtain ⟨hname'', hsteps''⟩ := Guard.edits_editAll hedit after h
  have hbefore := Field.definition_steps hsteps
  have hsealed : h.field.assigned = true := hassigned _ _ _ _ (hbefore ▸ hr) hx
  rw [Guard.editAll_append, Guard.editAll_cons_ok hx, close, hname'', hname', hname]
  refine ⟨_, lookup_withField hf _, ?_, Field.assigned_steps hsteps'' hsealed⟩
  rw [Field.definition_steps hsteps'', Field.definition_steps hsteps', hbefore]
  exact hr

lemma sealed_listSession {g : Guard} (hp : a.Defines name p) (hr : p.readonly = true)
    (ho : a.openList name = .ok g) {before after : List ListEdit} {edit : ListEdit}
    {r : Guard × Option (Value Artifact)}
    (hx : (g.editAll Guard.editList before).editList edit = .ok r) :
    (a.close (g.editAll Guard.editList (before ++ edit :: after))).Sealed name := by
  obtain ⟨f, hf, rfl⟩ := hp
  obtain ⟨f', hf', rfl⟩ := openList_ok ho
  obtain rfl : f = f' := Option.some.inj (hf.symm.trans hf')
  exact sealed_session (fun _ _ _ _ => Guard.edits_editList)
    (fun _ _ _ _ => Guard.assigned_editList) hf hr hx

lemma sealed_dictSession {g : Guard} (hp : a.Defines name p) (hr : p.readonly = true)
    (ho : a.openDict name = .ok g) {before after : List DictEdit} {edit : DictEdit}
    {r : Guard × Option (Value Artifact)}
    (hx : (g.editAll Guard.editDict before).editDict edit = .ok r) :
    (a.close (g.editAll Guard.editDict (before ++ edit :: after))).Sealed name := by
  obtain ⟨f, hf, rfl⟩ := hp
  obtain ⟨f', hf', rfl⟩ := openDict_ok ho
  obtain rfl : f = f' := Option.some.inj (hf.symm.trans hf')
  exact sealed_session (fun _ _ _ _ => Guard.edits_editDict)
    (fun _ _ _ _ => Guard.assigned_editDict) hf hr hx

lemma sealed_set {w : Option (Value Artifact)} (hp : a.Defines name p) (hr : p.readonly = true)
    (h : a.set name w = .ok b) (hv : b.Stores name v) : b.Sealed name := by
  obtain ⟨f, hf, rfl⟩ := hp
  obtain ⟨f', g, hf', _, hstore, rfl⟩ := set_ok h
  obtain rfl : f = f' := Option.some.inj (hf.symm.trans hf')
  obtain ⟨g', hg', hstored⟩ := hv
  obtain rfl : g = g' := Option.some.inj ((lookup_withField hf g).symm.trans hg')
  refine ⟨g, hg', ?_, Field.assigned_store hstore hr (by simp [hstored])⟩
  rw [Field.definition_step (.store hstore)]
  exact hr

lemma Writes.sealed (hp : a.Defines name p) (hr : p.readonly = true) {r : Except Fault Unit}
    (h : Writes name a b r) (hok : r = .ok ()) (hv : b.Stores name v) : b.Sealed name := by
  subst hok
  obtain ⟨w, hw⟩ := h
  exact sealed_set hp hr hw hv

lemma EditsList.sealed (hp : a.Defines name p) (hr : p.readonly = true) {r : Except Fault Unit}
    (h : EditsList name a b r) (hok : r = .ok ()) : b.Sealed name := by
  subst hok
  obtain ⟨edit, taken, he⟩ := h
  obtain ⟨g, g', hg, hedit, rfl⟩ := editList_ok he
  have hone : g.editAll Guard.editList ([] ++ [edit]) = g' := Guard.editAll_cons_ok hedit []
  have hs : (a.close (g.editAll Guard.editList ([] ++ [edit]))).Sealed name :=
    sealed_listSession hp hr hg hedit
  rwa [hone] at hs

end Artifact

namespace Desk

variable {name : String} {v : Value Artifact} {p : Definition Artifact} {d : Desk}

lemma duringPatch_true (layers : List Layer) (allowed : List Patch.Verb)
    (operations : List Patch.Operation) (d : Desk) :
    d.DuringPatch (fun _ => True) layers allowed operations := by
  induction operations generalizing d with
  | nil => trivial
  | cons operation rest ih => exact ⟨trivial, fun _ => ih _⟩

lemma during_true (actions : List Action) (d : Desk) : d.During (fun _ => True) actions := by
  induction actions generalizing d with
  | nil => trivial
  | cons action actions ih =>
    refine ⟨?_, ih _⟩
    cases action with
    | patch layers allowed operations => exact duringPatch_true layers allowed operations d
    | _ => trivial

lemma patch_append (layers : List Layer) (allowed : List Patch.Verb)
    (before after : List Patch.Operation) (d : Desk) :
    d.patch layers allowed (before ++ after) =
      match d.patch layers allowed before with
      | (d, .ok _) => d.patch layers allowed after
      | (d, .error e) => (d, .error e) := by
  induction before generalizing d with
  | nil => rfl
  | cons operation before ih =>
    rw [List.cons_append, patch_cons, patch_cons layers allowed operation before]
    rcases d.patch layers allowed [operation] with ⟨d', _ | _⟩
    · rfl
    · exact ih d'

/-- An action goes through on an attribute and leaves a value in it. Of a patch it is one of the
operations, and of the edits of a session it is enough that one of them goes through. -/
inductive Gives (name : String) (v : Value Artifact) (d : Desk) : Action → Prop
  | set {w : Option (Value Artifact)} {a : Artifact} : d.artifact.set name w = .ok a →
      a.Stores name v → Gives name v d (.set name w)
  | editList {g : Guard} {before after : List ListEdit} {edit : ListEdit}
      {r : Guard × Option (Value Artifact)} : d.artifact.openList name = .ok g →
      (g.editAll Guard.editList before).editList edit = .ok r →
      (d.artifact.close (g.editAll Guard.editList (before ++ edit :: after))).Stores name v →
      Gives name v d (.editList name (before ++ edit :: after))
  | editDict {g : Guard} {before after : List DictEdit} {edit : DictEdit}
      {r : Guard × Option (Value Artifact)} : d.artifact.openDict name = .ok g →
      (g.editAll Guard.editDict before).editDict edit = .ok r →
      (d.artifact.close (g.editAll Guard.editDict (before ++ edit :: after))).Stores name v →
      Gives name v d (.editDict name (before ++ edit :: after))
  | assign {layers : List Layer} {input : Input} : (d.assign layers name input).2 = .ok () →
      (d.assign layers name input).1.artifact.Stores name v →
      Gives name v d (.assign layers name input)
  | appendBlob {i : Nat} {u : Upload} : (d.on i (·.appendBlob name u)).2 = .ok () →
      (d.on i (·.appendBlob name u)).1.artifact.Stores name v →
      Gives name v d (.appendBlob i name u)
  | insertBlob {i index : Nat} {u : Upload} : (d.on i (·.insertBlob name index u)).2 = .ok () →
      (d.on i (·.insertBlob name index u)).1.artifact.Stores name v →
      Gives name v d (.insertBlob i name index u)
  | replaceBlob {i index : Nat} {u : Upload} : (d.on i (·.replaceBlob name index u)).2 = .ok () →
      (d.on i (·.replaceBlob name index u)).1.artifact.Stores name v →
      Gives name v d (.replaceBlob i name index u)
  | removeBlob {i index : Nat} : (d.on i (·.removeBlob name index)).2 = .ok () →
      (d.on i (·.removeBlob name index)).1.artifact.Stores name v →
      Gives name v d (.removeBlob i name index)
  | patch {layers : List Layer} {allowed : List Patch.Verb}
      {before after : List Patch.Operation} {operation : Patch.Operation} {rest : List String} :
      Patch.Path.parse operation.path = .ok (name :: rest) →
      (d.patch layers allowed (before ++ [operation])).2 = .ok () →
      (d.patch layers allowed (before ++ [operation])).1.artifact.Stores name v →
      Gives name v d (.patch layers allowed (before ++ operation :: after))

lemma keeps_sealed (actions : List Action) (h : d.artifact.Sealed name) :
    d.artifact.Keeps name (actions.foldl perform d).artifact :=
  keeps_run (fun _ hs _ => hs.isReadOnly) (fun _ _ hab hs => hs.keeps hab) actions d h
    (during_true actions d)

lemma sealed_patch_one (hp : d.artifact.Defines name p) (hr : p.readonly = true)
    {layers : List Layer} {allowed : List Patch.Verb} {operation : Patch.Operation}
    {rest : List String} (hpath : Patch.Path.parse operation.path = .ok (name :: rest))
    (hok : (d.patch layers allowed [operation]).2 = .ok ())
    (hv : (d.patch layers allowed [operation]).1.artifact.Stores name v) :
    (d.patch layers allowed [operation]).1.artifact.Sealed name := by
  simp only [patch] at hok hv ⊢
  cases hc : operation.checkAllowed allowed with
  | error e => simp [hc] at hok
  | ok _ =>
    simp only [hc, applyOperation] at hok hv ⊢
    cases hi : operation.input d.artifact with
    | error e => simp [hi] at hok
    | ok x =>
      obtain ⟨n, input⟩ := x
      obtain rfl := Patch.Operation.input_name hpath hi
      have hw := writes_assign layers n input d
      simp only [hi] at hok hv ⊢
      rcases hx : d.assign layers n input with ⟨d', _ | _⟩
      · simp [hx] at hok
      · simp only [hx] at hw hv ⊢
        exact hw.sealed hp hr rfl hv

lemma sealed_patch (hp : d.artifact.Defines name p) (hr : p.readonly = true)
    {layers : List Layer} {allowed : List Patch.Verb} {before : List Patch.Operation}
    {operation : Patch.Operation} {rest : List String}
    (hpath : Patch.Path.parse operation.path = .ok (name :: rest))
    (hok : (d.patch layers allowed (before ++ [operation])).2 = .ok ())
    (hv : (d.patch layers allowed (before ++ [operation])).1.artifact.Stores name v) :
    (d.patch layers allowed (before ++ [operation])).1.artifact.Sealed name := by
  have hsteps := steps_patch layers allowed before d
  rw [patch_append] at hok hv ⊢
  rcases hx : d.patch layers allowed before with ⟨d', _ | _⟩
  · simp [hx] at hok
  · rw [hx] at hsteps hok hv
    exact sealed_patch_one (hp.steps hsteps) hr hpath hok hv

lemma sealed_patch_append {layers : List Layer} {allowed : List Patch.Verb}
    {before after : List Patch.Operation} (hok : (d.patch layers allowed before).2 = .ok ())
    (hs : (d.patch layers allowed before).1.artifact.Sealed name)
    (hv : (d.patch layers allowed before).1.artifact.Stores name v) :
    (d.patch layers allowed (before ++ after)).1.artifact.Sealed name ∧
      (d.patch layers allowed (before ++ after)).1.artifact.peek name = some v := by
  rw [patch_append]
  rcases hx : d.patch layers allowed before with ⟨d', _ | _⟩
  · simp [hx] at hok
  · rw [hx] at hs hv
    have hkeeps : d'.artifact.Keeps name (d'.patch layers allowed after).1.artifact :=
      keeps_patch (fun _ hs _ => hs.isReadOnly) (fun _ _ hab hs => hs.keeps hab) layers allowed
        after d' hs (duringPatch_true layers allowed after d')
    obtain ⟨f, hf, _⟩ := id hs
    exact ⟨hs.keeps hkeeps, (hkeeps.peek_eq hf).trans hv.peek_eq⟩

lemma sealed_of_gives (hp : d.artifact.Defines name p) (hr : p.readonly = true) {action : Action}
    (h : d.Gives name v action) : (d.perform action).artifact.Sealed name ∧
      (d.perform action).artifact.peek name = some v := by
  cases h with
  | @set w a hs hv =>
    have hperform : (d.perform (.set name w)).artifact = a := by
      rw [perform, hs]
      rfl
    rw [hperform]
    exact ⟨Artifact.sealed_set hp hr hs hv, hv.peek_eq⟩
  | editList ho hx hv =>
    rw [perform, ho]
    exact ⟨Artifact.sealed_listSession hp hr ho hx, hv.peek_eq⟩
  | editDict ho hx hv =>
    rw [perform, ho]
    exact ⟨Artifact.sealed_dictSession hp hr ho hx, hv.peek_eq⟩
  | @assign layers input hok hv =>
    exact ⟨(writes_assign layers name input d).sealed hp hr hok hv, hv.peek_eq⟩
  | @appendBlob i u hok hv =>
    exact ⟨(Draft.editsList_uploadItem name .append none u (d.draft i)).sealed hp hr hok, hv.peek_eq⟩
  | @insertBlob i index u hok hv =>
    exact ⟨(Draft.editsList_uploadItem name (.insert index) none u (d.draft i)).sealed hp hr hok,
      hv.peek_eq⟩
  | @replaceBlob i index u hok hv =>
    exact ⟨(Draft.editsList_uploadItem name (.setItem index) (some index) u
      (d.draft i)).sealed hp hr hok, hv.peek_eq⟩
  | @removeBlob i index hok hv =>
    exact ⟨(Draft.editsList_removeBlob name index (d.draft i)).sealed hp hr hok, hv.peek_eq⟩
  | @patch layers allowed before after operation rest hpath hok hv =>
    have hcut : before ++ operation :: after = (before ++ [operation]) ++ after := by simp
    rw [perform, hcut]
    exact sealed_patch_append hok (sealed_patch hp hr hpath hok hv) hv

/-- Whatever is done to an artifact after a value was given to a read-only attribute, the attribute
shows that value. -/
theorem peek_run_of_gives (hp : d.artifact.Defines name p) (hr : p.readonly = true)
    {action : Action} (h : d.Gives name v action) (later : List Action) :
    ((action :: later).foldl perform d).artifact.peek name = some v := by
  obtain ⟨hs, hv⟩ := sealed_of_gives hp hr h
  obtain ⟨f, hf, _⟩ := id hs
  rw [List.foldl_cons, (keeps_sealed later hs).peek_eq hf, hv]

end Desk

end

end

namespace Artifact.Sample

open Definition

attribute [local instance] Predicates.parityAndSize ArtifactPredicates.owned

def badge : Descriptor where
  name := "Badge"
  version := "1.0.0"
  attributes := [
    ("motto", ((scalar .string).apply .readonly).apply (.default (.string "none"))),
    ("stamps", (list (scalar .string)).apply .readonly)]

def motto : Definition Artifact :=
  { ((scalar .string).apply .readonly).apply (.default (.string "none")) with name := some "motto" }

def stamps : Definition Artifact :=
  { (list (scalar .string)).apply .readonly with name := some "stamps" }

def badgeType : ArtifactType where
  name := "Badge"
  version := "1.0.0"
  displayName := "Badge"
  description := none
  endpoint := "badge"
  mutability := .whileState .creating
  attributes := [("motto", motto), ("stamps", stamps)]

example : badge.declare = .ok badgeType := rfl

def issued : Desk :=
  ⟨blank badgeType "b" start, fun _ => {}⟩

def stamp : Value Artifact :=
  .list [.string "north"]

def stamping : Desk.Action :=
  .assign [.update []] "stamps" (.value (some stamp))

def restamping : List Desk.Action :=
  [.get "stamps", .set "stamps" none, .editList "stamps" [.clear, .append (.string "south")],
    stamping, .patch [] [.add] [⟨.add, "/stamps/-", some (.str "south")⟩]]

theorem peek_run_of_gives_stamping : issued.artifact.Defines "stamps" stamps ∧
    stamps.readonly = true ∧ issued.Gives "stamps" stamp stamping ∧
    ((stamping :: restamping).foldl Desk.perform issued).artifact.peek "stamps" = some stamp := by
  have hp : issued.artifact.Defines "stamps" stamps := ⟨_, rfl, rfl⟩
  have hg : issued.Gives "stamps" stamp stamping := .assign rfl ⟨_, rfl, rfl⟩
  exact ⟨hp, rfl, hg, Desk.peek_run_of_gives hp rfl hg restamping⟩

/-- Reading stores a copy of the default, which a write still replaces. A session of edits
replaces what its own first edit gave. -/
theorem default_replaced : (issued.perform (.get "motto")).artifact.Stores "motto" (.string "none") ∧
    ([.get "motto", .set "motto" (some (.string "onward"))].foldl Desk.perform
      issued).artifact.peek "motto" = some (.string "onward") ∧
    (issued.perform (.editList "stamps" [.append (.string "north")])).artifact.Stores "stamps" stamp ∧
    (issued.perform (.editList "stamps" [.append (.string "north"),
      .append (.string "south")])).artifact.peek "stamps" =
        some (.list [.string "north", .string "south"]) :=
  ⟨⟨_, rfl, rfl⟩, rfl, ⟨_, rfl, rfl⟩, rfl⟩

end Artifact.Sample

end TypedArtifacts
