import TypedArtifacts.Proofs.Artifact.Frozen

/-! Artifacts that show the same and are sealed alike answer all writes alike. -/

namespace TypedArtifacts

open Artifact Outcome

def ArtifactPredicates.Discreet [ArtifactPredicates] : Prop :=
  ∀ (predicate : String) (a b : Artifact), b.settled = a.settled →
    accepts predicate b = accepts predicate a

inductive Write where
  | set (name : String) (v : Option (Value Artifact))
  | list (name : String) (edits : List ListEdit)
  | dict (name : String) (edits : List DictEdit)

namespace Write

def name : Write → String
  | set name _ => name
  | list name _ => name
  | dict name _ => name

end Write

section

variable [Predicates Artifact]

def Guard.answers {α : Type}
    (edit : α → Guard → Except ValidationError (Guard × Option (Value Artifact))) :
    List α → Guard → List Bool
  | [], _ => []
  | x :: edits, g => (edit x g).isOk :: answers edit edits (g.editAll edit [x])

namespace Artifact

variable [ArtifactPredicates]

def answers : Write → Artifact → List Bool
  | .set name v, a => [(a.set name v).isOk]
  | .list name edits, a =>
    match a.openList name with
    | .ok g => true :: g.answers Guard.editList edits
    | .error _ => [false]
  | .dict name edits, a =>
    match a.openDict name with
    | .ok g => true :: g.answers Guard.editDict edits
    | .error _ => [false]

def after : Write → Artifact → Artifact
  | .set name v, a =>
    match a.set name v with
    | .ok b => b
    | .error _ => a
  | .list name edits, a =>
    match a.openList name with
    | .ok g => a.close (g.editAll Guard.editList edits)
    | .error _ => a
  | .dict name edits, a =>
    match a.openDict name with
    | .ok g => a.close (g.editAll Guard.editDict edits)
    | .error _ => a

def replies : List Write → Artifact → List (List Bool)
  | [], _ => []
  | w :: writes, a => a.answers w :: replies writes (a.after w)

end Artifact

end

structure Field.Twin (g f : Field Artifact) : Prop where
  definition : g.definition = f.definition
  shown : Agree g.value? f.value?
  assigned : f.definition.readonly = true → g.assigned = f.assigned

structure Guard.Twin (h g : Guard) : Prop where
  name : h.name = g.name
  frozen : h.frozen = g.frozen
  field : h.field.Twin g.field
  stored : Agree h.field.stored g.field.stored

structure Artifact.Twin (names : String → Prop) (b a : Artifact) : Prop where
  settled : b.settled = a.settled
  assigned : ∀ name, names name → ∀ f, a.field? name = some f → ∀ g, b.field? name = some g →
    f.definition.readonly = true → g.assigned = f.assigned

section

variable {v w : Option (Value Artifact)}

lemma Artifact.Agree.normalize (h : Agree v w) (d : Definition Artifact) :
    Agree (v.map d.normalize) (w.map d.normalize) := by
  have hcomm : settledValue ∘ d.normalize = d.normalize ∘ settledValue :=
    funext fun u => d.settledValue_normalize u
  rw [Agree, Option.map_map, Option.map_map, hcomm, ← Option.map_map, ← Option.map_map, h]

lemma Artifact.Agree.items (h : Agree v w) :
    ((v.bind (·.list?)).getD []).map settledValue =
      ((w.bind (·.list?)).getD []).map settledValue := by
  have hitems : ∀ u : Option (Value Artifact), ((u.bind (·.list?)).getD []).map settledValue =
      ((u.map settledValue).bind (·.list?)).getD [] := by
    rintro (_ | u)
    · rfl
    · cases u <;> simp [settledValue, settledItems_eq, Value.list?]
  rw [hitems, hitems, h]

lemma Artifact.Agree.entries (h : Agree v w) :
    Dict.mapValues settledValue ((v.bind (·.dict?)).getD []) =
      Dict.mapValues settledValue ((w.bind (·.dict?)).getD []) := by
  have hentries : ∀ u : Option (Value Artifact),
      Dict.mapValues settledValue ((u.bind (·.dict?)).getD []) =
        ((u.map settledValue).bind (·.dict?)).getD [] := by
    rintro (_ | u)
    · rfl
    · cases u <;> simp [settledValue, settledEntries_eq, Value.dict?, Dict.mapValues]
  rw [hentries, hentries, h]

lemma Definition.validateAs_agree [Predicates Artifact] (hp : Predicates.Respectful)
    (d : Definition Artifact) (place : String) (h : Agree v w) :
    d.validateAs place v = .ok () ↔ d.validateAs place w = .ok () := by
  cases v with
  | none =>
    obtain rfl : w = none := Option.map_eq_none_iff.1 h.symm
    rfl
  | some v =>
    obtain ⟨w, rfl, hw⟩ := Option.map_eq_some_iff.1 h.symm
    have hd := (hp.impartial d).respects
    exact ⟨validateAs_congr Value.alike_settled hd hw.symm,
      validateAs_congr Value.alike_settled hd hw⟩

end

namespace Field.Twin

variable {g f : Field Artifact} {v w : Option (Value Artifact)}

lemma sealed_eq (h : g.Twin f) :
    (g.definition.readonly && g.assigned) = (f.definition.readonly && f.assigned) := by
  rw [h.definition]
  cases hr : f.definition.readonly with
  | false => rfl
  | true => rw [h.assigned hr]

lemma isReadOnly_eq (h : g.Twin f) (m : Bool) : g.isReadOnly m = f.isReadOnly m := by
  rw [isReadOnly, isReadOnly, h.sealed_eq, h.definition]

lemma checkWritable_eq (h : g.Twin f) (name : String) (m : Bool) :
    g.checkWritable name m = f.checkWritable name m := by
  rw [checkWritable, checkWritable, h.sealed_eq, h.definition]

lemma materialize (h : g.Twin f) : g.materialize.Twin f.materialize where
  definition := h.definition
  shown := by
    rw [value?_materialize, value?_materialize]
    exact h.shown
  assigned := h.assigned

lemma commit (h : g.Twin f) (hv : Agree v w) : (g.commit v).Twin (f.commit w) where
  definition := h.definition
  shown := by
    change Agree (v.or g.definition.default) (w.or f.definition.default)
    rw [h.definition, Agree, Option.map_or, Option.map_or, hv]
  assigned hr := by
    have hsome : v.isSome = w.isSome := by
      rw [← Option.isSome_map (f := settledValue), hv, Option.isSome_map]
    rw [Field.commit, Field.commit, h.definition, h.assigned hr, hsome]

variable [Predicates Artifact]

lemma store (hp : Predicates.Respectful) (h : g.Twin f) (name : String) (hv : Agree v w) :
    Match (fun g' f' => g'.Twin f' ∧ Agree g'.stored f'.stored) (g.store name v)
      (f.store name w) := by
  have hn := hv.normalize f.definition
  unfold Field.store
  rw [h.definition]
  refine (Match.of_iff (f.definition.validateAs_agree hp name hn)).bind fun _ _ _ => ?_
  exact .ok ⟨h.commit hn, hn⟩

lemma set (hp : Predicates.Respectful) (h : g.Twin f) (name : String) (v : Option (Value Artifact))
    (m : Bool) : Match Twin (g.set name v m) (f.set name v m) := by
  unfold Field.set
  rw [h.checkWritable_eq]
  refine (Match.of_iff Iff.rfl).bind fun _ _ _ => ?_
  exact (h.store hp name (show Agree v v from rfl)).mono fun _ _ hr => hr.1

end Field.Twin

section

variable {vs ws : List (Value Artifact)} {es fs : List (String × Value Artifact)}

lemma ListEdit.match_run (edit : ListEdit) (h : vs.map settledValue = ws.map settledValue) :
    Match (fun p q => p.1.map settledValue = q.1.map settledValue) (edit.run vs) (edit.run ws) := by
  have hl : vs.length = ws.length := by simpa using congrArg List.length h
  cases edit with
  | append v => exact .ok (by simp [h])
  | extend us => exact .ok (by simp [h])
  | insert i v =>
    simp only [run, hl]
    split
    · exact .ok (by simp [List.map_insertIdx, h])
    · exact .error _ _
  | setItem i v =>
    simp only [run, hl]
    split
    · exact .ok (by simp [List.map_set, h])
    · exact .error _ _
  | remove i =>
    simp only [run, hl]
    split
    · exact .ok (by simp [← List.eraseIdx_map, h])
    · exact .error _ _
  | pop => exact .ok (by simp [List.map_dropLast, h])
  | clear => exact .ok rfl

lemma DictEdit.run_agree (edit : DictEdit)
    (h : Dict.mapValues settledValue es = Dict.mapValues settledValue fs) :
    Dict.mapValues settledValue (edit.run es).1 = Dict.mapValues settledValue (edit.run fs).1 := by
  cases edit with
  | insert k v => simp only [run, Dict.mapValues_insert, h]
  | remove k => simp only [run, Dict.mapValues_erase, h]
  | update entries => simp only [run, Dict.mapValues_update, h]
  | clear => rfl

end

namespace Guard.Twin

variable [Predicates Artifact] {h g : Guard}

lemma replace (hp : Predicates.Respectful) (ht : h.Twin g) {v w : Value Artifact}
    (hv : settledValue v = settledValue w) : Match Twin (h.replace v) (g.replace w) := by
  unfold Guard.replace
  rw [ht.name]
  have hstore := ht.field.store hp g.name (show Agree (some v) (some w) from congrArg some hv)
  exact hstore.bind fun _ _ hr => .ok ⟨rfl, ht.frozen, hr.1, hr.2⟩

lemma editList (hp : Predicates.Respectful) (ht : h.Twin g) (edit : ListEdit) :
    Match (fun p q => p.1.Twin q.1) (h.editList edit) (g.editList edit) := by
  have hrun := edit.match_run (show h.items.map settledValue = g.items.map settledValue from
    ht.stored.items)
  unfold Guard.editList
  rw [ht.frozen]
  cases g.frozen with
  | true => exact .error _ _
  | false =>
    simp only [Bool.false_eq_true, if_false]
    generalize edit.run h.items = x at hrun
    generalize edit.run g.items = y at hrun
    cases hrun with
    | error i j => exact .error _ _
    | @ok p q hr =>
      refine (ht.replace hp ?_).bind fun _ _ ht' => .ok ht'
      rw [settledValue, settledValue, settledItems_eq, settledItems_eq, hr]

lemma editDict (hp : Predicates.Respectful) (ht : h.Twin g) (edit : DictEdit) :
    Match (fun p q => p.1.Twin q.1) (h.editDict edit) (g.editDict edit) := by
  have hrun := edit.run_agree (show Dict.mapValues settledValue h.entries =
    Dict.mapValues settledValue g.entries from ht.stored.entries)
  unfold Guard.editDict
  rw [ht.frozen]
  cases g.frozen with
  | true => exact .error _ _
  | false =>
    simp only [Bool.false_eq_true, if_false]
    refine (ht.replace hp ?_).bind fun _ _ ht' => .ok ht'
    rw [settledValue, settledValue, settledEntries_eq, settledEntries_eq]
    exact congrArg Value.dict hrun

omit [Predicates Artifact] in
lemma session {α : Type}
    {edit : α → Guard → Except ValidationError (Guard × Option (Value Artifact))}
    (hedit : ∀ x h g, h.Twin g → Match (fun p q => p.1.Twin q.1) (edit x h) (edit x g))
    (edits : List α) (ht : h.Twin g) :
    h.answers edit edits = g.answers edit edits ∧
      (h.editAll edit edits).Twin (g.editAll edit edits) := by
  induction edits generalizing h g with
  | nil => exact ⟨rfl, ht⟩
  | cons x edits ih =>
    have hx := hedit x h g ht
    have hone : (h.editAll edit [x]).Twin (g.editAll edit [x]) := by
      rw [editAll, editAll, List.foldl_cons, List.foldl_cons]
      rcases hx.both with ⟨p, q, hp, hq, hr⟩ | ⟨e, e', hp, hq⟩
      · rw [hp, hq]
        exact hr
      · rw [hp, hq]
        exact ht
    obtain ⟨hrest, htwin⟩ := ih hone
    exact ⟨List.cons_eq_cons.2 ⟨hx.isOk_eq, hrest⟩, htwin⟩

end Guard.Twin

namespace Artifact

lemma settled_withField (a : Artifact) (name : String) (f : Field Artifact) :
    (a.withField name f).settled = a.settled.withField name (settledField f) := by
  rw [settled_eq, settled_eq, withField, withField]
  simp only [Dict.adjust, List.map_map]
  congr 1
  apply List.map_congr_left
  intro e _
  by_cases hn : e.1 = name <;> simp [hn]

lemma exists_agreeing {a b : Artifact} (h : b.settled = a.settled) {name : String}
    {f : Field Artifact} (hf : a.field? name = some f) : ∃ g, b.field? name = some g ∧
      g.definition = f.definition ∧ Agree g.value? f.value? := by
  have hfields : (b.field? name).map settledField = (a.field? name).map settledField := by
    rw [← settled_field?, h, settled_field?]
  rw [hf] at hfields
  obtain ⟨g, hg, heq⟩ := Option.map_eq_some_iff.1 hfields
  rw [settledField_eq, settledField_eq] at heq
  obtain ⟨hd, hv, _⟩ := Field.mk.inj heq
  exact ⟨g, hg, hd, hv⟩

namespace Twin

variable {names : String → Prop} {name : String} {a b : Artifact} {f g : Field Artifact}

lemma type_eq (h : b.Twin names a) : b.type = a.type := by
  have ht := congrArg Artifact.type h.settled
  rwa [settled_eq, settled_eq] at ht

lemma header_eq (h : b.Twin names a) : b.toHeader = a.toHeader := by
  have hh := congrArg toHeader h.settled
  rwa [settled_eq, settled_eq] at hh

lemma match_findField (h : b.Twin names a) (hn : names name) :
    Match Field.Twin (b.findField name) (a.findField name) := by
  have hassigned := h.assigned name hn
  unfold findField
  cases hf : a.field? name with
  | none =>
    cases hg : b.field? name with
    | none => exact .error _ _
    | some g =>
      obtain ⟨f, hf', _⟩ := exists_agreeing h.settled.symm hg
      rw [hf] at hf'
      cases hf'
  | some f =>
    obtain ⟨g, hg, hd, hv⟩ := exists_agreeing h.settled hf
    rw [hg]
    exact .ok ⟨hd, hv, hassigned f hf g hg⟩

lemma withField (h : b.Twin names a) (hgf : g.Twin f) :
    (b.withField name g).Twin names (a.withField name f) where
  settled := by
    have hfield : settledField g = settledField f := by
      rw [settledField_eq, settledField_eq, hgf.definition]
      exact congrArg (Field.mk f.definition · false) hgf.shown
    rw [settled_withField, settled_withField, h.settled, hfield]
  assigned n hn f' hf' g' hg' hr := by
    have hadjust : ∀ (x : Artifact) (k : Field Artifact), (x.withField name k).field? n =
        if n = name then (x.field? n).map fun _ => k else x.field? n := fun x k =>
      Dict.lookup_adjust name (fun _ => k) x.fields n
    rw [hadjust] at hf' hg'
    by_cases hname : n = name
    · rw [if_pos hname] at hf' hg'
      obtain ⟨_, _, rfl⟩ := Option.map_eq_some_iff.1 hf'
      obtain ⟨_, _, rfl⟩ := Option.map_eq_some_iff.1 hg'
      exact hgf.assigned hr
    · rw [if_neg hname] at hf' hg'
      exact h.assigned n hn f' hf' g' hg' hr

variable [ArtifactPredicates]

lemma isMutable_eq (hq : ArtifactPredicates.Discreet) (h : b.Twin names a) :
    b.isMutable = a.isMutable := by
  rw [isMutable, isMutable, h.type_eq]
  cases a.type.mutability with
  | whileState state =>
    dsimp only
    rw [h.header_eq]
  | untilFlagSet flag =>
    have hboolean : ∀ x : Artifact, (x.peek flag).bind (·.boolean?) =
        (x.shown flag).bind (·.boolean?) := by
      intro x
      rw [shown]
      cases x.peek flag with
      | none => rfl
      | some v => cases v <;> rfl
    dsimp only
    rw [hboolean, hboolean, shown_settled, shown_settled, h.settled]
  | custom predicate => exact hq predicate a b h.settled

lemma guard (hq : ArtifactPredicates.Discreet) (h : b.Twin names a) (hgf : g.Twin f) :
    (b.guard name g).Twin (a.guard name f) where
  name := rfl
  frozen := by
    rw [Artifact.guard, Artifact.guard, hgf.isReadOnly_eq, h.isMutable_eq hq]
  field := hgf.materialize
  stored := hgf.shown

lemma openList (hq : ArtifactPredicates.Discreet) (h : b.Twin names a) (hn : names name) :
    Match Guard.Twin (b.openList name) (a.openList name) := by
  refine (h.match_findField hn).bind fun g f hgf => ?_
  rw [hgf.definition]
  cases f.definition.kind.isList with
  | true => exact .ok (h.guard hq hgf)
  | false => exact .error _ _

lemma openDict (hq : ArtifactPredicates.Discreet) (h : b.Twin names a) (hn : names name) :
    Match Guard.Twin (b.openDict name) (a.openDict name) := by
  refine (h.match_findField hn).bind fun g f hgf => ?_
  rw [hgf.definition]
  cases f.definition.kind.isDict with
  | true => exact .ok (h.guard hq hgf)
  | false => exact .error _ _

omit [ArtifactPredicates] in
lemma close (h : b.Twin names a) {k l : Guard} (ht : k.Twin l) :
    (b.close k).Twin names (a.close l) := by
  rw [Artifact.close, Artifact.close, ht.name]
  exact h.withField ht.field

variable [Predicates Artifact]

lemma set (hp : Predicates.Respectful) (hq : ArtifactPredicates.Discreet) (h : b.Twin names a)
    (hn : names name) (v : Option (Value Artifact)) :
    Match (Twin names) (b.set name v) (a.set name v) := by
  refine (h.match_findField hn).bind fun g f hgf => ?_
  rw [h.isMutable_eq hq]
  exact (hgf.set hp name v a.isMutable).bind fun _ _ hgf' => .ok (h.withField hgf')

theorem after (hp : Predicates.Respectful) (hq : ArtifactPredicates.Discreet) (h : b.Twin names a)
    {w : Write} (hn : names w.name) :
    b.answers w = a.answers w ∧ (b.after w).Twin names (a.after w) := by
  cases w with
  | set name v =>
    have hset := h.set hp hq (show names name from hn) v
    rw [answers, answers, Artifact.after, Artifact.after]
    refine ⟨congrArg ([·]) hset.isOk_eq, ?_⟩
    rcases hset.both with ⟨b', a', hb, ha, ht⟩ | ⟨e, e', hb, ha⟩
    · rw [hb, ha]
      exact ht
    · rw [hb, ha]
      exact h
  | list name edits =>
    have hopen := h.openList hq (show names name from hn)
    rw [answers, answers, Artifact.after, Artifact.after]
    rcases hopen.both with ⟨k, l, hk, hl, ht⟩ | ⟨e, e', hk, hl⟩
    · rw [hk, hl]
      obtain ⟨hanswers, ht'⟩ := ht.session (fun x _ _ ht => ht.editList hp x) edits
      exact ⟨congrArg _ hanswers, h.close ht'⟩
    · rw [hk, hl]
      exact ⟨rfl, h⟩
  | dict name edits =>
    have hopen := h.openDict hq (show names name from hn)
    rw [answers, answers, Artifact.after, Artifact.after]
    rcases hopen.both with ⟨k, l, hk, hl, ht⟩ | ⟨e, e', hk, hl⟩
    · rw [hk, hl]
      obtain ⟨hanswers, ht'⟩ := ht.session (fun x _ _ ht => ht.editDict hp x) edits
      exact ⟨congrArg _ hanswers, h.close ht'⟩
    · rw [hk, hl]
      exact ⟨rfl, h⟩

theorem replies_eq (hp : Predicates.Respectful) (hq : ArtifactPredicates.Discreet)
    (h : b.Twin names a) {writes : List Write} (hn : ∀ w ∈ writes, names w.name) :
    b.replies writes = a.replies writes := by
  induction writes generalizing a b with
  | nil => rfl
  | cons w writes ih =>
    obtain ⟨hanswers, hafter⟩ := h.after hp hq (hn w List.mem_cons_self)
    rw [replies, replies, hanswers, ih hafter fun x hx => hn x (List.mem_cons_of_mem _ hx)]

end Twin

section

variable [Predicates Artifact] {a b : Artifact} {f g : Field Artifact}

omit [Predicates Artifact] in
lemma answers_refused {α : Type}
    {edit : α → Guard → Except ValidationError (Guard × Option (Value Artifact))} {k : Guard}
    (h : ∀ x, ∃ e, edit x k = .error e) (edits : List α) :
    k.answers edit edits = edits.map fun _ => false := by
  induction edits with
  | nil => rfl
  | cons x edits ih =>
    obtain ⟨e, he⟩ := h x
    rw [Guard.answers, Guard.editAll_refused h, ih, he]
    rfl

omit [Predicates Artifact] in
lemma answers_frozen {α : Type}
    {edit : α → Guard → Except ValidationError (Guard × Option (Value Artifact))}
    (hedit : ∀ k : Guard, k.frozen = true → ∀ x, ∃ e, edit x k = .error e) {k l : Guard}
    (hk : k.frozen = true) (hl : l.frozen = true) (edits : List α) :
    k.answers edit edits = l.answers edit edits :=
  (answers_refused (hedit k hk) edits).trans (answers_refused (hedit l hl) edits).symm

variable [ArtifactPredicates]

lemma isOk_set_readOnly {name : String} (h : a.isReadOnly name = true) (v : Option (Value Artifact)) :
    (a.set name v).isOk = false := by
  cases hs : a.set name v with
  | error e => rfl
  | ok b =>
    obtain ⟨f, _, hf, hw, _⟩ := set_ok hs
    rw [← isReadOnly_of_lookup hf, h] at hw
    cases hw

lemma answers_readOnly {w : Write} (hf : a.field? w.name = some f) (hg : b.field? w.name = some g)
    (hd : g.definition = f.definition) (ha : a.isReadOnly w.name = true)
    (hb : b.isReadOnly w.name = true) : b.answers w = a.answers w := by
  have hfrozen : (a.guard w.name f).frozen = true := (isReadOnly_of_lookup hf).symm.trans ha
  have hfrozen' : (b.guard w.name g).frozen = true := (isReadOnly_of_lookup hg).symm.trans hb
  have hfind := findField_of_lookup hf
  have hfind' := findField_of_lookup hg
  cases w with
  | set name v =>
    have hset : (a.set name v).isOk = false := isOk_set_readOnly ha v
    have hset' : (b.set name v).isOk = false := isOk_set_readOnly hb v
    rw [answers, answers, hset, hset']
  | list name edits =>
    have hedits := answers_frozen (fun _ hk edit => ⟨_, Guard.editList_frozen hk edit⟩) hfrozen'
      hfrozen edits
    rw [answers, answers, Artifact.openList, Artifact.openList, show a.findField name = _ from hfind,
      show b.findField name = _ from hfind', Outcome.ok_bind, Outcome.ok_bind, hd]
    cases f.definition.kind.isList with
    | true => exact congrArg _ hedits
    | false => rfl
  | dict name edits =>
    have hedits := answers_frozen (fun _ hk edit => ⟨_, Guard.editDict_frozen hk edit⟩) hfrozen'
      hfrozen edits
    rw [answers, answers, Artifact.openDict, Artifact.openDict, show a.findField name = _ from hfind,
      show b.findField name = _ from hfind', Outcome.ok_bind, Outcome.ok_bind, hd]
    cases f.definition.kind.isDict with
    | true => exact congrArg _ hedits
    | false => rfl

theorem answers_eq (hp : Predicates.Respectful) (hq : ArtifactPredicates.Discreet)
    (hs : b.settled = a.settled) {w : Write} (hr : b.isReadOnly w.name = a.isReadOnly w.name) :
    b.answers w = a.answers w := by
  cases ha : a.isReadOnly w.name with
  | false =>
    have hunsealed : ∀ (x : Artifact) (k : Field Artifact), x.isReadOnly w.name = false →
        x.field? w.name = some k → k.definition.readonly = true → k.assigned = false := by
      intro x k hx hk hro
      rw [isReadOnly_of_lookup hk, Field.isReadOnly, hro, Bool.true_and, Bool.or_eq_false_iff] at hx
      exact hx.1
    -- Neither is sealed, whatever became of the other attributes.
    have ht : b.Twin (· = w.name) a := by
      refine ⟨hs, ?_⟩
      rintro name rfl f hf g hg hro
      obtain ⟨g', hg', hd, _⟩ := exists_agreeing hs hf
      obtain rfl : g = g' := Option.some.inj (hg.symm.trans hg')
      rw [hunsealed a f ha hf hro, hunsealed b g (hr.trans ha) hg (hd ▸ hro)]
    exact (ht.after hp hq rfl).1
  | true =>
    cases hf : a.field? w.name with
    | none => simp [isReadOnly, hf] at ha
    | some f =>
      obtain ⟨g, hg, hd, _⟩ := exists_agreeing hs hf
      exact answers_readOnly hf hg hd ha (hr.trans ha)

end

end Artifact

end TypedArtifacts
