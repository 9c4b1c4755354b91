import TypedArtifacts.Proofs.Artifact.Canonical

/-! A field that is read-only shows the same value after everything that is done to its artifact. -/

namespace TypedArtifacts

structure Field.Alike (f g : Field Artifact) : Prop where
  definition : g.definition = f.definition
  assigned : g.assigned = f.assigned
  value : g.value? = f.value?

namespace Field.Alike

variable {f g h : Field Artifact}

lemma refl (f : Field Artifact) : f.Alike f := ⟨rfl, rfl, rfl⟩

lemma trans (hg : f.Alike g) (hh : g.Alike h) : f.Alike h where
  definition := hh.definition.trans hg.definition
  assigned := hh.assigned.trans hg.assigned
  value := hh.value.trans hg.value

lemma materialize (f : Field Artifact) : f.Alike f.materialize := ⟨rfl, rfl, value?_materialize f⟩

end Field.Alike

namespace Artifact

def Keeps (name : String) (a b : Artifact) : Prop :=
  ∀ f, a.fields.lookup name = some f → ∃ g, b.fields.lookup name = some g ∧ f.Alike g

variable {name n : String} {a b c : Artifact} {f g : Field Artifact}

lemma Keeps.refl (name : String) (a : Artifact) : Keeps name a a :=
  fun f hf => ⟨f, hf, .refl f⟩

lemma Keeps.trans (hb : Keeps name a b) (hc : Keeps name b c) : Keeps name a c := by
  intro f hf
  obtain ⟨g, hg, hfg⟩ := hb f hf
  obtain ⟨h, hh, hgh⟩ := hc g hg
  exact ⟨h, hh, hfg.trans hgh⟩

lemma Keeps.peek_eq (h : Keeps name a b) (hf : a.fields.lookup name = some f) :
    b.peek name = a.peek name := by
  obtain ⟨g, hg, hfg⟩ := h f hf
  simp [peek, field?, hf, hg, hfg.value]

lemma lookup_withField (hf : a.fields.lookup name = some f) (g : Field Artifact) :
    (a.withField name g).fields.lookup name = some g := by
  simp [withField, Dict.lookup_adjust, hf]

lemma lookup_withField_of_ne (hn : name ≠ n) (g : Field Artifact) :
    (a.withField n g).fields.lookup name = a.fields.lookup name := by
  simp [withField, Dict.lookup_adjust, hn]

lemma keeps_withField (hf : a.fields.lookup n = some f) (hg : n = name → f.Alike g) :
    Keeps name a (a.withField n g) := by
  intro f' hf'
  by_cases hn : n = name
  · subst hn
    obtain rfl : f = f' := Option.some.inj (hf.symm.trans hf')
    exact ⟨g, lookup_withField hf g, hg rfl⟩
  · exact ⟨f', (lookup_withField_of_ne (Ne.symm hn) g).trans hf', .refl f'⟩

lemma keeps_get {v : Option (Value Artifact)} (h : a.get n = .ok (b, v)) : Keeps name a b := by
  obtain ⟨f, hf, rfl⟩ := get_ok h
  exact keeps_withField hf fun _ => .materialize f

section

variable [ArtifactPredicates]

lemma isReadOnly_of_lookup (hf : a.fields.lookup name = some f) :
    a.isReadOnly name = f.isReadOnly a.isMutable := by
  simp [isReadOnly, field?, hf]

end

end Artifact

namespace Guard

variable {g : Guard}

lemma editAll_refused {α : Type}
    {edit : α → Guard → Except ValidationError (Guard × Option (Value Artifact))}
    (h : ∀ x, ∃ e, edit x g = .error e) (edits : List α) : g.editAll edit edits = g := by
  induction edits with
  | nil => rfl
  | cons x edits ih =>
    obtain ⟨e, he⟩ := h x
    rw [editAll, List.foldl_cons, he]
    exact ih

variable [Predicates Artifact]

lemma editList_frozen (h : g.frozen = true) (edit : ListEdit) :
    g.editList edit = .error ⟨g.name, .readOnly, none⟩ := by
  simp [editList, h, throw, throwThe, MonadExceptOf.throw]

lemma editDict_frozen (h : g.frozen = true) (edit : DictEdit) :
    g.editDict edit = .error ⟨g.name, .readOnly, none⟩ := by
  simp [editDict, h, throw, throwThe, MonadExceptOf.throw]

end Guard

section

variable [ArtifactPredicates] [Predicates Artifact]

namespace Artifact

variable {name n : String} {a b : Artifact} {f : Field Artifact}

lemma keeps_set {v : Option (Value Artifact)} (hr : a.isReadOnly name = true)
    (h : a.set n v = .ok b) : Keeps name a b := by
  obtain ⟨f, g, hf, hw, _, rfl⟩ := set_ok h
  refine keeps_withField hf fun hn => ?_
  subst hn
  rw [← isReadOnly_of_lookup hf, hr] at hw
  cases hw

lemma keeps_session {α : Type}
    {edit : α → Guard → Except ValidationError (Guard × Option (Value Artifact))}
    (hedit : ∀ x g h taken, edit x g = .ok (h, taken) → g.Edits h)
    (hfrozen : ∀ x (g : Guard), g.frozen = true → ∃ e, edit x g = .error e)
    (hr : a.isReadOnly name = true) (hf : a.fields.lookup n = some f) (edits : List α) :
    Keeps name a (a.close ((a.guard n f).editAll edit edits)) := by
  obtain ⟨hname, _⟩ := Guard.edits_editAll hedit edits (a.guard n f)
  rw [close, hname]
  refine keeps_withField hf fun hn => ?_
  subst hn
  have hg : (a.guard n f).frozen = true := (isReadOnly_of_lookup hf).symm.trans hr
  rw [Guard.editAll_refused fun x => hfrozen x _ hg]
  exact .materialize f

lemma keeps_listSession {g : Guard} (hr : a.isReadOnly name = true) (h : a.openList n = .ok g)
    (edits : List ListEdit) : Keeps name a (a.close (g.editAll Guard.editList edits)) := by
  obtain ⟨f, hf, rfl⟩ := openList_ok h
  exact keeps_session (fun _ _ _ _ => Guard.edits_editList)
    (fun edit _ hg => ⟨_, Guard.editList_frozen hg edit⟩) hr hf edits

lemma keeps_dictSession {g : Guard} (hr : a.isReadOnly name = true) (h : a.openDict n = .ok g)
    (edits : List DictEdit) : Keeps name a (a.close (g.editAll Guard.editDict edits)) := by
  obtain ⟨f, hf, rfl⟩ := openDict_ok h
  exact keeps_session (fun _ _ _ _ => Guard.edits_editDict)
    (fun edit _ hg => ⟨_, Guard.editDict_frozen hg edit⟩) hr hf edits

lemma keeps_editList {edit : ListEdit} {taken : Option (Value Artifact)}
    (hr : a.isReadOnly name = true) (h : a.editList n edit = .ok (b, taken)) : Keeps name a b := by
  obtain ⟨g, g', hg, he, rfl⟩ := editList_ok h
  have hone : g.editAll Guard.editList [edit] = g' := by
    simp only [Guard.editAll, List.foldl_cons, List.foldl_nil, he]
  exact hone ▸ keeps_listSession hr hg [edit]

lemma Writes.keeps {r : Except Fault Unit} (h : Writes n a b r) (hr : a.isReadOnly name = true) :
    Keeps name a b := by
  cases r with
  | ok _ =>
    obtain ⟨v, hv⟩ := h
    exact keeps_set hr hv
  | error e => exact h ▸ .refl name a

lemma EditsList.keeps {r : Except Fault Unit} (h : EditsList n a b r)
    (hr : a.isReadOnly name = true) : Keeps name a b := by
  cases r with
  | ok _ =>
    obtain ⟨edit, taken, he⟩ := h
    exact keeps_editList hr he
  | error e => exact h ▸ .refl name a

end Artifact

namespace Desk

lemma keeps_operation {name : String} (layers : List Layer) (operation : Patch.Operation)
    {d : Desk} (hr : d.artifact.isReadOnly name = true) :
    d.artifact.Keeps name (d.applyOperation layers operation).1.artifact := by
  rw [applyOperation]
  cases operation.input d.artifact with
  | error e => exact .refl name d.artifact
  | ok x => exact (writes_assign layers x.1 x.2 d).keeps hr

lemma patch_cons (layers : List Layer) (allowed : List Patch.Verb) (operation : Patch.Operation)
    (rest : List Patch.Operation) (d : Desk) :
    d.patch layers allowed (operation :: rest) =
      match d.patch layers allowed [operation] with
      | (d, .ok _) => d.patch layers allowed rest
      | (d, .error e) => (d, .error e) := by
  simp only [patch]
  cases operation.checkAllowed allowed with
  | error e => rfl
  | ok _ =>
    dsimp only
    rcases d.applyOperation layers operation with ⟨d', _ | _⟩ <;> rfl

lemma keeps_patch_one {name : String} (layers : List Layer) (allowed : List Patch.Verb)
    (operation : Patch.Operation) {d : Desk} (hr : d.artifact.isReadOnly name = true) :
    d.artifact.Keeps name (d.patch layers allowed [operation]).1.artifact := by
  have hop := keeps_operation layers operation hr
  simp only [patch]
  cases operation.checkAllowed allowed with
  | error e => exact .refl name d.artifact
  | ok _ =>
    dsimp only
    rcases hx : d.applyOperation layers operation with ⟨d', _ | _⟩ <;> rwa [hx] at hop

def DuringPatch (P : Artifact → Prop) (layers : List Layer) (allowed : List Patch.Verb) :
    List Patch.Operation → Desk → Prop
  | [], _ => True
  | operation :: rest, d =>
    P d.artifact ∧ ((d.patch layers allowed [operation]).2 = .ok () →
      DuringPatch P layers allowed rest (d.patch layers allowed [operation]).1)

def DuringAction (P : Artifact → Prop) (d : Desk) : Action → Prop
  | .patch layers allowed operations => DuringPatch P layers allowed operations d
  | _ => P d.artifact

def During (P : Artifact → Prop) : List Action → Desk → Prop
  | [], _ => True
  | action :: rest, d => d.DuringAction P action ∧ During P rest (d.perform action)

section

variable {name : String} {P Q : Artifact → Prop}

omit [ArtifactPredicates] [Predicates Artifact] in
lemma keeps_holding {ε : Type} {d : Desk} {r : Except ε Artifact}
    (h : ∀ a, r = .ok a → d.artifact.Keeps name a) :
    d.artifact.Keeps name (d.holding r).artifact := by
  cases r with
  | ok a => exact h a rfl
  | error e => exact .refl name d.artifact

lemma keeps_patch (hread : ∀ a, Q a → P a → a.isReadOnly name = true)
    (hkept : ∀ a b, Artifact.Keeps name a b → Q a → Q b) (layers : List Layer)
    (allowed : List Patch.Verb) (operations : List Patch.Operation) (d : Desk)
    (hq : Q d.artifact) (hp : d.DuringPatch P layers allowed operations) :
    d.artifact.Keeps name (d.patch layers allowed operations).1.artifact := by
  induction operations generalizing d with
  | nil => exact .refl name d.artifact
  | cons operation rest ih =>
    obtain ⟨hd, hrest⟩ := hp
    have hone := keeps_patch_one layers allowed operation (hread _ hq hd)
    rw [patch_cons]
    rcases hx : d.patch layers allowed [operation] with ⟨d', r⟩
    rw [hx] at hone hrest
    cases r with
    | error e => exact hone
    | ok _ => exact hone.trans (ih d' (hkept _ _ hone hq) (hrest rfl))

lemma keeps_perform (hread : ∀ a, Q a → P a → a.isReadOnly name = true)
    (hkept : ∀ a b, Artifact.Keeps name a b → Q a → Q b) {d : Desk} (action : Action)
    (hq : Q d.artifact) (hp : d.DuringAction P action) :
    d.artifact.Keeps name (d.perform action).artifact := by
  cases action with
  | header h => exact .refl name d.artifact
  | get n =>
    apply keeps_holding
    intro a ha
    obtain ⟨r, hg, rfl⟩ := Outcome.map_eq_ok.1 ha
    exact Artifact.keeps_get hg
  | set n v => exact keeps_holding fun a ha => Artifact.keeps_set (hread _ hq hp) ha
  | editList n edits =>
    apply keeps_holding
    intro a ha
    obtain ⟨g, ho, rfl⟩ := Outcome.map_eq_ok.1 ha
    exact Artifact.keeps_listSession (hread _ hq hp) ho edits
  | editDict n edits =>
    apply keeps_holding
    intro a ha
    obtain ⟨g, ho, rfl⟩ := Outcome.map_eq_ok.1 ha
    exact Artifact.keeps_dictSession (hread _ hq hp) ho edits
  | assign layers n input => exact (writes_assign layers n input d).keeps (hread _ hq hp)
  | appendBlob i n u =>
    exact (Draft.editsList_uploadItem n .append none u (d.draft i)).keeps (hread _ hq hp)
  | insertBlob i n index u =>
    exact (Draft.editsList_uploadItem n (.insert index) none u (d.draft i)).keeps (hread _ hq hp)
  | replaceBlob i n index u =>
    exact (Draft.editsList_uploadItem n (.setItem index) (some index) u (d.draft i)).keeps
      (hread _ hq hp)
  | removeBlob i n index =>
    exact (Draft.editsList_removeBlob n index (d.draft i)).keeps (hread _ hq hp)
  | patch layers allowed operations => exact keeps_patch hread hkept layers allowed operations d hq hp

lemma keeps_run (hread : ∀ a, Q a → P a → a.isReadOnly name = true)
    (hkept : ∀ a b, Artifact.Keeps name a b → Q a → Q b) (actions : List Action) (d : Desk)
    (hq : Q d.artifact) (hp : d.During P actions) :
    d.artifact.Keeps name (actions.foldl perform d).artifact := by
  induction actions generalizing d with
  | nil => exact .refl name d.artifact
  | cons action actions ih =>
    obtain ⟨haction, hrest⟩ := hp
    have hone := keeps_perform hread hkept action hq haction
    exact hone.trans (ih (d.perform action) (hkept _ _ hone hq) hrest)

end

end Desk

end

lemma Definition.mutable_apply {d : Definition Artifact} {f : Facet Artifact}
    (hm : (d.apply f).misuses = []) (hr : d.role = .dependency) :
    d.misuses = [] ∧ ((d.apply f).mutable = true → d.mutable = true) := by
  have hrestrict : ∀ l, (d.restrict l).misuses = [] →
      d.misuses = [] ∧ ((d.restrict l).mutable = true → d.mutable = true) := by
    intro l hl
    unfold Definition.restrict at hl ⊢
    split at hl
    · rename_i ha
      simp only [ha, if_true]
      exact ⟨hl, id⟩
    · simp [misuse] at hl
  cases f with
  | immutable => exact ⟨hm, nofun⟩
  | mutable => simp [Definition.apply, hr, misuse] at hm
  | pattern source =>
    simp only [Definition.apply] at hm ⊢
    split at hm
    · exact hrestrict _ hm
    · simp [misuse] at hm
  | limit l => exact hrestrict l hm
  | _ => exact ⟨hm, id⟩

lemma Definition.Built.immutable {d : Definition Artifact} (h : d.Built)
    (hm : d.misuses = []) (hr : d.role = .dependency) : d.mutable = false := by
  induction h with
  | scalar s => cases hr
  | relation => rfl
  | blob => cases hr
  | @list item _ _ =>
    obtain ⟨t, kind⟩ := item
    cases kind with
    | relation => rfl
    | _ => cases hr
  | tuple => cases hr
  | dict => cases hr
  | composite => cases hr
  | @facet d f _ _ ih =>
    have hrole : d.role = .dependency := (role_eq (kind_apply f d)).symm.trans hr
    obtain ⟨hnone, hmutable⟩ := mutable_apply hm hrole
    have hd := ih hnone hrole
    cases hf : (d.apply f).mutable with
    | false => rfl
    | true => exact absurd (hmutable hf) (by simp [hd])
  | @named d e name _ hn ih =>
    obtain rfl := assignName_eq hn
    have hrole : d.role = .dependency := by
      rw [← hr]
      exact role_eq rfl
    exact ih hm hrole

section

variable [Predicates Artifact]

lemma Descriptor.declareAttribute_immutable {before : List String} {name : String}
    {d e : Definition Artifact} (hd : d.Built) (h : declareAttribute before name d = .ok e)
    (hr : e.role = .dependency) : e.mutable = false := by
  unfold declareAttribute at h
  simp only [Outcome.guard_eq_ok, Outcome.bind_eq_ok] at h
  obtain ⟨_, _, _, ⟨t, kind⟩, ha, _, hc, he⟩ := h
  obtain rfl := Except.ok.inj he
  refine (Definition.Built.named hd ha).immutable ?_ hr
  rw [Definition.checkDeclaration, Outcome.bind_eq_ok] at hc
  obtain ⟨_, hc, _⟩ := hc
  unfold Definition.checkMisuses at hc
  split at hc
  · assumption
  · cases hc

lemma ArtifactType.Declared.immutable {t : ArtifactType} (h : t.Declared) :
    ∀ e ∈ t.attributes, e.2.role = .dependency → e.2.mutable = false :=
  (h.forall_attributes fun _ _ _ _ => Descriptor.declareAttribute_immutable).2

namespace Desk

variable [ArtifactPredicates]

/-- While the rule of its type refuses changes, an attribute that is immutable or refers to
artifacts shows what it showed, whatever is done. -/
theorem peek_run_of_immutable {c : Catalog} {t : ArtifactType} (hc : c.Registered)
    (ht : t ∈ c.types) {d : Desk} (hd : d.artifact.definitions = t.attributes) {name : String}
    {p : Definition Artifact} (hp : (name, p) ∈ t.attributes)
    (hfixed : p.mutable = false ∨ p.role = .dependency) (actions : List Action)
    (hrun : d.During (fun a => a.isMutable = false) actions) :
    (actions.foldl perform d).artifact.peek name = d.artifact.peek name := by
  have hdeclared := hc.declared t ht
  have himmutable : p.mutable = false := hfixed.elim id (hdeclared.immutable _ hp)
  obtain ⟨f, hf, hfp⟩ : ∃ f, d.artifact.fields.lookup name = some f ∧ f.definition = p := by
    have hl := Dict.lookup_of_mem hdeclared.attributes.1.nodup hp
    rw [← hd, Artifact.lookup_definitions] at hl
    exact Option.map_eq_some_iff.1 hl
  -- The field keeps its definition, so that it is read-only whenever the rule refuses changes.
  have hkeeps : d.artifact.Keeps name (actions.foldl perform d).artifact := by
    refine keeps_run (Q := fun a => ∃ f, a.fields.lookup name = some f ∧ f.definition = p)
      ?_ ?_ actions d ⟨f, hf, hfp⟩ hrun
    · rintro a ⟨g, hg, rfl⟩ ha
      simp [Artifact.isReadOnly_of_lookup hg, Field.isReadOnly, himmutable, ha]
    · rintro a b hab ⟨g, hg, rfl⟩
      obtain ⟨h, hh, halike⟩ := hab g hg
      exact ⟨h, hh, halike.definition⟩
  exact hkeeps.peek_eq hf

end Desk

end

namespace Artifact.Sample

attribute [local instance] Predicates.parityAndSize ArtifactPredicates.owned

def opened : Desk :=
  ⟨{ stocked with state := .active }, fun _ => {}⟩

def attempts : List Desk.Action :=
  [.get "books", .set "books" none, .set "counts" none, .editList "books" [.clear, .pop],
    .assign [.dependency ⟨fun _ => .ok novel, 1⟩] "books" (.references ["b", "b"]),
    .patch [] [.remove] [⟨.remove, "/counts", none⟩, ⟨.remove, "/books/0", none⟩]]

theorem peek_run_of_immutable_shelf : catalog.Registered ∧ shelfType ∈ catalog.types ∧
    opened.artifact.definitions = shelfType.attributes ∧ ("books", books) ∈ shelfType.attributes ∧
    opened.During (fun a => a.isMutable = false) attempts ∧
    (attempts.foldl Desk.perform opened).artifact.peek "books" = some (.list [.artifact novel]) ∧
    (attempts.foldl Desk.perform opened).artifact.peek "counts" = none := by
  have ht : shelfType ∈ catalog.types := by simp [catalog]
  have hp : ("books", books) ∈ shelfType.attributes := Dict.mem_of_lookup rfl
  have hrun : opened.During (fun a => a.isMutable = false) attempts :=
    ⟨rfl, rfl, rfl, rfl, rfl, ⟨rfl, fun _ => ⟨rfl, fun _ => trivial⟩⟩, trivial⟩
  exact ⟨registered, ht, rfl, hp, hrun,
    Desk.peek_run_of_immutable registered ht rfl hp (.inr rfl) attempts hrun, rfl⟩

end Artifact.Sample

end TypedArtifacts
