import TypedArtifacts.Proofs.Artifact.Reread
import TypedArtifacts.Proofs.Artifact.Frozen

namespace TypedArtifacts

/-- No test of a caller tells the default that a field shows from a copy of it in the field. What an
artifact answers about itself does not. -/
def ArtifactPredicates.Respectful [ArtifactPredicates] : Prop :=
  ∀ (predicate : String) (a : Artifact) (name : String) (f : Field Artifact),
    a.fields.lookup name = some f →
      accepts predicate (a.withField name f.materialize) = accepts predicate a

namespace ListEdit

def InRange (size : ℕ) : ListEdit → Prop
  | insert i _ => i ≤ size
  | setItem i _ => i < size
  | remove i => i < size
  | _ => True

def applied : ListEdit → List (Value Artifact) → List (Value Artifact)
  | append v, vs => vs ++ [v]
  | extend ws, vs => vs ++ ws
  | insert i v, vs => vs.insertIdx i v
  | setItem i v, vs => vs.set i v
  | remove i, vs => vs.eraseIdx i
  | pop, vs => vs.dropLast
  | clear, _ => []

lemma run_eq_ok {edit : ListEdit} {vs ws : List (Value Artifact)} :
    (∃ taken, edit.run vs = .ok (ws, taken)) ↔ edit.InRange vs.length ∧ edit.applied vs = ws := by
  cases edit with
  | insert i v => by_cases h : i ≤ vs.length <;> simp [run, InRange, applied, h]
  | setItem i v => by_cases h : i < vs.length <;> simp [run, InRange, applied, h]
  | remove i => by_cases h : i < vs.length <;> simp [run, InRange, applied, h]
  | _ => simp [run, InRange, applied]

end ListEdit

namespace DictEdit

def applied : DictEdit → (String → Option (Value Artifact)) → String → Option (Value Artifact)
  | insert k v, m => Function.update m k (some v)
  | remove k, m => Function.update m k none
  | update entries, m => fun key => (entries.reverse.lookup key).or (m key)
  | clear, _ => fun _ => none

lemma lookup_run (edit : DictEdit) (es : List (String × Value Artifact)) (key : String) :
    (edit.run es).1.lookup key = edit.applied (fun key => es.lookup key) key := by
  cases edit with
  | insert k v => simp [run, applied, Dict.lookup_insert, Function.update_apply]
  | remove k => simp [run, applied, Dict.lookup_erase, Function.update_apply]
  | update entries => exact Dict.lookup_update_reverse es entries key
  | clear => rfl

lemma sorted_run (edit : DictEdit) {es : List (String × Value Artifact)} (hs : Dict.Sorted es) :
    Dict.Sorted (edit.run es).1 := by
  cases edit with
  | insert k v => exact hs.insert k v
  | remove k => exact hs.erase k
  | update entries => exact hs.update entries
  | clear => exact .nil

end DictEdit

namespace Guard

variable [Predicates Artifact] {g g' : Guard}

lemma editList_eq_ok {edit : ListEdit} : (∃ taken, g.editList edit = .ok (g', taken)) ↔
    g.frozen = false ∧ edit.InRange g.items.length ∧
      g.replace (.list (edit.applied g.items)) = .ok g' := by
  constructor
  · rintro ⟨taken, h⟩
    obtain ⟨vs, hrun, hreplace⟩ := editList_ok h
    obtain ⟨hrange, rfl⟩ := ListEdit.run_eq_ok.1 ⟨taken, hrun⟩
    refine ⟨?_, hrange, hreplace⟩
    by_contra hf
    rw [editList_frozen (by simpa using hf)] at h
    cases h
  · rintro ⟨hf, hrange, hreplace⟩
    obtain ⟨taken, hrun⟩ := ListEdit.run_eq_ok.2 ⟨hrange, rfl⟩
    refine ⟨taken, ?_⟩
    rw [editList, hf, hrun]
    exact Outcome.bind_eq_ok.2 ⟨g', hreplace, rfl⟩

lemma editDict_eq_ok {edit : DictEdit} : (∃ previous, g.editDict edit = .ok (g', previous)) ↔
    g.frozen = false ∧ g.replace (.dict (edit.run g.entries).1) = .ok g' := by
  constructor
  · rintro ⟨previous, h⟩
    refine ⟨?_, editDict_ok h⟩
    by_contra hf
    rw [editDict_frozen (by simpa using hf)] at h
    cases h
  · rintro ⟨hf, hreplace⟩
    refine ⟨(edit.run g.entries).2, ?_⟩
    rw [editDict, hf]
    exact Outcome.bind_eq_ok.2 ⟨g', hreplace, rfl⟩

end Guard

namespace Artifact

section

variable [ArtifactPredicates] {a b : Artifact} {name : String} {f : Field Artifact}

lemma peek_close_guard (hf : a.fields.lookup name = some f) (n : String) :
    (a.close (a.guard name f)).peek n = a.peek n := by
  rw [close, guard, peek_withField hf, Field.value?_materialize]
  split
  · rename_i hn
    simp [peek, field?, hn, hf]
  · rfl

lemma isMutable_close_guard (hp : ArtifactPredicates.Respectful)
    (hf : a.fields.lookup name = some f) :
    (a.close (a.guard name f)).isMutable = a.isMutable := by
  have htype : (a.close (a.guard name f)).type = a.type := rfl
  rw [isMutable, isMutable, htype]
  cases a.type.mutability with
  | whileState state => rfl
  | untilFlagSet flag =>
    dsimp only
    rw [peek_close_guard hf]
  | custom predicate => exact hp predicate a name f hf

lemma isReadOnly_close_guard (hp : ArtifactPredicates.Respectful)
    (hf : a.fields.lookup name = some f) (n : String) :
    (a.close (a.guard name f)).isReadOnly n = a.isReadOnly n := by
  by_cases hn : n = name
  · subst hn
    have hclosed : (a.close (a.guard n f)).fields.lookup n = some f.materialize :=
      lookup_withField hf _
    rw [isReadOnly_of_lookup hclosed, isReadOnly_of_lookup hf, isMutable_close_guard hp hf]
    rfl
  · rw [isReadOnly, isReadOnly, isMutable_close_guard hp hf, field?, field?]
    exact congrArg _ (lookup_withField_of_ne hn _)

variable [Predicates Artifact]

/-- An edit through a guard, which had the given result, agrees with the assignment of the whole
value: it goes through in the same cases, and then to the same artifact, and if it does not, no
reader of the artifact can tell that the guard was there. -/
structure Agrees (a : Artifact) (name : String) (g : Guard)
    (r : Except ValidationError (Guard × Option (Value Artifact))) (inRange : Prop)
    (whole : Value Artifact) : Prop where
  succeeds : (∃ x, r = .ok x) ↔ inRange ∧ ∃ b, a.set name (some whole) = .ok b
  done : ∀ x, r = .ok x → a.set name (some whole) = .ok (a.close x.1)
  undone : ∀ e, r = .error e →
    ∀ n, (a.close g).peek n = a.peek n ∧ (a.close g).isReadOnly n = a.isReadOnly n

lemma set_eq_ok (hf : a.fields.lookup name = some f) {v : Value Artifact} :
    a.set name (some v) = .ok b ↔ (a.guard name f).frozen = false ∧
      ∃ g, (a.guard name f).replace v = .ok g ∧ a.close g = b := by
  constructor
  · intro h
    obtain ⟨f', h', hf', hw, hstore, rfl⟩ := set_ok h
    obtain rfl := Option.some.inj (hf.symm.trans hf')
    exact ⟨hw, _, Outcome.bind_eq_ok.2 ⟨h', hstore, rfl⟩, rfl⟩
  · rintro ⟨hw, g, hg, rfl⟩
    obtain ⟨h', hstore, rfl⟩ := Guard.replace_ok hg
    have hwritable := (Field.checkWritable_eq_ok_iff name f a.isMutable).2 hw
    rw [Artifact.set, findField_of_lookup hf, Outcome.ok_bind, Field.set, hwritable, Outcome.ok_bind]
    exact Outcome.bind_eq_ok.2 ⟨h', hstore, rfl⟩

lemma agrees_of_replace (hp : ArtifactPredicates.Respectful) (hf : a.fields.lookup name = some f)
    {r : Except ValidationError (Guard × Option (Value Artifact))} {inRange : Prop}
    {whole : Value Artifact}
    (h : ∀ g, (∃ taken, r = .ok (g, taken)) ↔ (a.guard name f).frozen = false ∧ inRange ∧
      (a.guard name f).replace whole = .ok g) :
    a.Agrees name (a.guard name f) r inRange whole where
  succeeds := by
    constructor
    · rintro ⟨⟨g, taken⟩, hr⟩
      obtain ⟨hw, hrange, hg⟩ := (h g).1 ⟨taken, hr⟩
      exact ⟨hrange, _, (set_eq_ok hf).2 ⟨hw, g, hg, rfl⟩⟩
    · rintro ⟨hrange, b, hb⟩
      obtain ⟨hw, g, hg, _⟩ := (set_eq_ok hf).1 hb
      obtain ⟨taken, hr⟩ := (h g).2 ⟨hw, hrange, hg⟩
      exact ⟨(g, taken), hr⟩
  done := by
    rintro ⟨g, taken⟩ hr
    obtain ⟨hw, _, hg⟩ := (h g).1 ⟨taken, hr⟩
    exact (set_eq_ok hf).2 ⟨hw, g, hg, rfl⟩
  undone _ _ n := ⟨peek_close_guard hf n, isReadOnly_close_guard hp hf n⟩

theorem edit_agrees (hp : ArtifactPredicates.Respectful) (hf : a.field? name = some f) :
    (f.definition.kind.isList = true → ∃ g, a.openList name = .ok g ∧ ∀ edit : ListEdit,
      a.Agrees name g (g.editList edit)
        (edit.InRange ((f.value?.bind (·.list?)).getD []).length)
        (.list (edit.applied ((f.value?.bind (·.list?)).getD [])))) ∧
    (f.definition.kind.isDict = true → ∃ g, a.openDict name = .ok g ∧ ∀ edit : DictEdit,
      ∃ whole, a.Agrees name g (g.editDict edit) True (.dict whole) ∧
        (∀ key, whole.lookup key =
          edit.applied (fun key => ((f.value?.bind (·.dict?)).getD []).lookup key) key) ∧
        (Dict.Sorted ((f.value?.bind (·.dict?)).getD []) → Dict.Sorted whole)) := by
  have hfind : a.findField name = .ok f := findField_of_lookup hf
  refine ⟨fun hlist => ⟨a.guard name f, ?_, fun edit => ?_⟩,
    fun hdict => ⟨a.guard name f, ?_, fun edit => ?_⟩⟩
  · rw [openList, hfind, Outcome.ok_bind, hlist]
    rfl
  · exact agrees_of_replace hp hf fun g => Guard.editList_eq_ok
  · rw [openDict, hfind, Outcome.ok_bind, hdict]
    rfl
  · refine ⟨_, agrees_of_replace hp hf fun g => ?_, edit.lookup_run _, edit.sorted_run⟩
    rw [true_and]
    exact Guard.editDict_eq_ok

end

namespace Sample

open Definition

attribute [local instance] Predicates.parityAndSize ArtifactPredicates.owned

def ladder : Descriptor where
  name := "Ladder"
  version := "1.0.0"
  attributes := [
    ("prizes", ((dict (scalar .integer)).apply (.limit (.maxKeys 2))).apply
      (.default (.dict [("first", .integer 20), ("second", .integer 10)]))),
    ("ranks", ((list (scalar .integer)).apply (.limit (.maxSize 2))).apply
      (.default (.list [.integer 1, .integer 2])))]

def ladderType : ArtifactType :=
  ladder.declare.toOption.get rfl

def prizes : Definition Artifact :=
  (ladderType.attributes.lookup "prizes").get rfl

def ranks : Definition Artifact :=
  (ladderType.attributes.lookup "ranks").get rfl

def unranked : Artifact :=
  blank ladderType "l" start

lemma respectful_owned : ArtifactPredicates.Respectful :=
  fun _ _ _ _ _ => rfl

lemma applied_insert (key : String) :
    (DictEdit.insert "first" (.integer 30)).applied
        (fun key => [("first", .integer 20), ("second", .integer 10)].lookup key) key =
      [("first", .integer 30), ("second", .integer 10)].lookup key := by
  by_cases h : key = "first"
  · subst h
    rfl
  · simp [DictEdit.applied, h, List.lookup_cons, beq_false_of_ne h]

lemma applied_update (key : String) :
    (DictEdit.update [("third", .integer 5)]).applied
        (fun key => [("first", .integer 20), ("second", .integer 10)].lookup key) key =
      [("first", .integer 20), ("second", .integer 10), ("third", .integer 5)].lookup key := by
  by_cases h : key = "third"
  · subst h
    rfl
  · simp [DictEdit.applied, List.lookup_cons, beq_false_of_ne h]

theorem edit_agrees_ranks : ArtifactPredicates.Respectful ∧
    unranked.field? "ranks" = some (.blank ranks) ∧
    (∃ g, unranked.openList "ranks" = .ok g ∧
      unranked.Agrees "ranks" g (g.editList (.remove 0)) (0 < 2) (.list [.integer 2]) ∧
      unranked.Agrees "ranks" g (g.editList (.append (.integer 3))) True
        (.list [.integer 1, .integer 2, .integer 3]) ∧
      (∃ x, g.editList (.remove 0) = .ok x) ∧ ∃ e, g.editList (.append (.integer 3)) = .error e) ∧
    unranked.field? "prizes" = some (.blank prizes) ∧
    ∃ g, unranked.openDict "prizes" = .ok g ∧
      unranked.Agrees "prizes" g (g.editDict (.insert "first" (.integer 30))) True
        (.dict [("first", .integer 30), ("second", .integer 10)]) ∧
      unranked.Agrees "prizes" g (g.editDict (.update [("third", .integer 5)])) True
        (.dict [("first", .integer 20), ("second", .integer 10), ("third", .integer 5)]) ∧
      (∃ x, g.editDict (.insert "first" (.integer 30)) = .ok x) ∧
      ∃ e, g.editDict (.update [("third", .integer 5)]) = .error e := by
  have hranks : unranked.field? "ranks" = some (.blank ranks) := rfl
  have hprizes : unranked.field? "prizes" = some (.blank prizes) := rfl
  have hsorted : Dict.Sorted [("first", (.integer 20 : Value Artifact)), ("second", .integer 10)] := by
    decide
  obtain ⟨g, hg, hlist⟩ := (edit_agrees respectful_owned hranks).1 rfl
  obtain rfl : unranked.guard "ranks" (.blank ranks) = g := Except.ok.inj hg
  obtain ⟨g', hg', hdict⟩ := (edit_agrees respectful_owned hprizes).2 rfl
  obtain rfl : unranked.guard "prizes" (.blank prizes) = g' := Except.ok.inj hg'
  obtain ⟨inserted, hinsert, hlookup, hs⟩ := hdict (.insert "first" (.integer 30))
  obtain rfl : inserted = [("first", .integer 30), ("second", .integer 10)] :=
    (hs hsorted).ext (by decide) fun key => (hlookup key).trans (applied_insert key)
  obtain ⟨updated, hupdate, hlookup, hs⟩ := hdict (.update [("third", .integer 5)])
  obtain rfl : updated = [("first", .integer 20), ("second", .integer 10), ("third", .integer 5)] :=
    (hs hsorted).ext (by decide) fun key => (hlookup key).trans (applied_update key)
  exact ⟨respectful_owned, hranks, ⟨_, hg, hlist (.remove 0), hlist (.append (.integer 3)), ⟨_, rfl⟩,
    _, rfl⟩, hprizes, _, hg', hinsert, hupdate, ⟨_, rfl⟩, _, rfl⟩

end Sample

end Artifact

end TypedArtifacts
