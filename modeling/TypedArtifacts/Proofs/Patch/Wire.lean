import TypedArtifacts.Proofs.Definition.Conversion
import TypedArtifacts.Proofs.Json
import TypedArtifacts.Proofs.Patch.Batch
import TypedArtifacts.Proofs.Patch.Property

/-! Patch operations that travel as JSON. A value of null arrives as no value, so that a batch means
the same on arrival exactly if no operation that is reached looks at such a value. -/

namespace TypedArtifacts

namespace Patch

/-- What a step comes to with a value, next to what it comes to without one: the value has no part
in it, or its absence is a fault of its own. -/
inductive Use {α : Type} (verb : Verb) (missing : Fault) (bare given : Except Fault α) : Prop
  | ignored : given = bare → bare ≠ .error missing → Use verb missing bare given
  | demanded : verb ≠ .remove → bare = .error missing → given ≠ .error missing →
      Use verb missing bare given

namespace Use

variable {α β : Type} {verb : Verb} {missing : Fault} {bare given : Except Fault α}

lemma bind {f g : β → Except Fault α} {x : Except Fault β} (hx : x ≠ .error missing)
    (h : ∀ b, Use verb missing (f b) (g b)) : Use verb missing (x >>= f) (x >>= g) := by
  cases x with
  | error e => exact .ignored rfl fun h => hx (congrArg _ (Except.error.inj h))
  | ok b => exact h b

lemma map (h : Use verb missing bare given) (f : α → β) :
    Use verb missing (bare >>= fun a => .ok (f a)) (given >>= fun a => .ok (f a)) := by
  have hmap : ∀ x : Except Fault α, x ≠ .error missing →
      (x >>= fun a => .ok (f a)) ≠ .error missing := by
    intro x hx h
    rcases Outcome.bind_eq_error.1 h with h | ⟨_, _, h⟩
    · exact hx h
    · cases h
  cases h with
  | ignored heq hbare => exact .ignored (by rw [heq]) (hmap bare hbare)
  | demanded hverb hbare hgiven =>
    exact .demanded hverb (by rw [hbare, Outcome.error_bind]) (hmap given hgiven)

end Use

namespace Target

def missing (t : Target) : Fault :=
  .path ⟨t.path, .valueMissing t.verb.name⟩

section

variable (t : Target)

lemma mapError_ne_missing {α : Type} (x : Except ValidationError α) :
    x.mapError .validation ≠ .error t.missing := by
  cases x with
  | error e => exact fun h => by cases h
  | ok a => exact fun h => by cases h

lemma readId_ne_missing (j : Json) : t.readId j ≠ .error t.missing := by
  rw [readId]
  cases j.str? with
  | none => exact fun h => by cases h
  | some id => exact fun h => by cases h

lemma readIds_ne_missing (j : Json) : t.readIds j ≠ .error t.missing := by
  rw [readIds]
  cases j.arr? with
  | none => exact fun h => by cases h
  | some items =>
    intro h
    obtain ⟨item, _, hitem⟩ := Outcome.mapM_error h
    exact t.readId_ne_missing item hitem

lemma index_ne_missing (segment : String) (size : ℕ) (appending : Bool) :
    t.index segment size appending ≠ .error t.missing := by
  unfold index
  dsimp only
  split_ifs <;> exact fun h => by cases h

end

section

variable (path name : String) (j : Json) {verb : Verb}

lemma use_readItem (hverb : verb ≠ .remove) (d : Definition Artifact) (i : ℕ) :
    Use verb (missing ⟨path, name, verb, none⟩) (readItem ⟨path, name, verb, none⟩ d i)
      (readItem ⟨path, name, verb, some j⟩ d i) := by
  refine .demanded hverb rfl fun h => ?_
  rcases Outcome.bind_eq_error.1 h with h | ⟨_, hj, h⟩
  · cases h
  rcases Outcome.bind_eq_error.1 h with h | ⟨v, _, h⟩
  · exact mapError_ne_missing _ _ h
  · cases v <;> cases h

lemma use_editItems (d : Definition Artifact) (i : ℕ) (vs : List (Value Artifact)) :
    Use verb (missing ⟨path, name, verb, none⟩) (editItems ⟨path, name, verb, none⟩ d i vs)
      (editItems ⟨path, name, verb, some j⟩ d i vs) := by
  cases verb with
  | add => exact (use_readItem path name j (by decide) d i).map _
  | remove => exact .ignored rfl nofun
  | replace => exact (use_readItem path name j (by decide) d i).map _

lemma use_editEntry (d : Definition Artifact) (key : String) :
    Use verb (missing ⟨path, name, verb, none⟩) (editEntry ⟨path, name, verb, none⟩ d key)
      (editEntry ⟨path, name, verb, some j⟩ d key) := by
  cases verb with
  | add => exact .demanded nofun rfl (mapError_ne_missing _ _)
  | remove => exact .ignored rfl nofun
  | replace => exact .demanded nofun rfl (mapError_ne_missing _ _)

lemma use_editValue (rest : List String) (d : Definition Artifact)
    (current : Option (Value Artifact)) :
    Use verb (missing ⟨path, name, verb, none⟩) (editValue ⟨path, name, verb, none⟩ rest d current)
      (editValue ⟨path, name, verb, some j⟩ rest d current) := by
  induction rest generalizing d current with
  | nil =>
    cases verb with
    | add => exact .demanded nofun rfl (mapError_ne_missing _ _)
    | remove => exact .ignored rfl nofun
    | replace => exact .demanded nofun rfl (mapError_ne_missing _ _)
  | cons segment deeper ih =>
    rw [editValue, editValue]
    split
    · refine .bind (index_ne_missing _ _ _ _) fun i => ?_
      cases d.itemAt? i with
      | none => exact .ignored rfl fun h => by cases h
      | some item =>
        dsimp only
        split
        · exact (use_editItems path name j item i _).map _
        · exact (ih item _).map _
    · split
      · exact .ignored rfl fun h => by cases h
      · cases d.valueAt? segment with
        | none => exact .ignored rfl fun h => by cases h
        | some part =>
          dsimp only
          split
          · exact (use_editEntry path name j part segment).map _
          · exact (ih part _).map _
    · exact .ignored rfl fun h => by cases h

lemma use_assignIds (isList : Bool) :
    Use verb (missing ⟨path, name, verb, none⟩) (assignIds ⟨path, name, verb, none⟩ isList)
      (assignIds ⟨path, name, verb, some j⟩ isList) := by
  rw [assignIds, assignIds]
  split
  · exact .ignored rfl nofun
  · rename_i hverb
    refine .demanded hverb rfl ?_
    rw [givenValue, Outcome.ok_bind]
    split
    · exact fun h => by cases h
    split
    · intro h
      rcases Outcome.bind_eq_error.1 h with h | ⟨_, _, h⟩
      · exact readIds_ne_missing _ j h
      · cases h
    · intro h
      rcases Outcome.bind_eq_error.1 h with h | ⟨_, _, h⟩
      · exact readId_ne_missing _ j h
      · cases h

lemma use_editIds (i : ℕ) (ids : List String) :
    Use verb (missing ⟨path, name, verb, none⟩) (editIds ⟨path, name, verb, none⟩ i ids)
      (editIds ⟨path, name, verb, some j⟩ i ids) := by
  have hread (hverb : verb ≠ .remove) : Use verb (missing ⟨path, name, verb, none⟩)
      (.error (missing ⟨path, name, verb, none⟩)) (readId ⟨path, name, verb, some j⟩ j) :=
    .demanded hverb rfl (readId_ne_missing _ j)
  cases verb with
  | add => exact (hread nofun).map _
  | remove => exact .ignored rfl nofun
  | replace => exact (hread nofun).map _

lemma use_editLinks (isList : Bool) (current : Option (Value Artifact)) (rest : List String) :
    Use verb (missing ⟨path, name, verb, none⟩)
      (editLinks ⟨path, name, verb, none⟩ isList current rest)
      (editLinks ⟨path, name, verb, some j⟩ isList current rest) := by
  match rest with
  | [] => exact use_assignIds path name j isList
  | [segment] =>
    rw [editLinks, editLinks]
    split
    · exact .bind (index_ne_missing _ _ _ _) fun i => (use_editIds path name j i _).map _
    · exact .ignored rfl fun h => by cases h
  | segment :: _ :: _ => exact .ignored rfl fun h => by cases h

lemma editBlobs_ne_missing (t : Target) (isList : Bool) (current : Option (Value Artifact))
    (rest : List String) : t.editBlobs isList current rest ≠ .error t.missing := by
  unfold editBlobs
  split
  · exact fun h => by cases h
  · match rest with
    | [] => exact fun h => by cases h
    | [segment] =>
      dsimp only
      split
      · intro h
        rcases Outcome.bind_eq_error.1 h with h | ⟨_, _, h⟩
        · exact t.index_ne_missing _ _ _ h
        · cases h
      · exact fun h => by cases h
    | segment :: _ :: _ => exact fun h => by cases h

lemma use_input (f : Field Artifact) (rest : List String) :
    Use verb (missing ⟨path, name, verb, none⟩) (input ⟨path, name, verb, none⟩ f rest)
      (input ⟨path, name, verb, some j⟩ f rest) := by
  rw [input, input]
  split
  · exact (use_editValue path name j rest _ _).map _
  · exact use_editLinks path name j _ _ rest
  · have hblobs : Use verb (missing ⟨path, name, verb, none⟩)
        (editBlobs ⟨path, name, verb, none⟩ f.definition.kind.isList f.value? rest)
        (editBlobs ⟨path, name, verb, some j⟩ f.definition.kind.isList f.value? rest) :=
      .ignored rfl (editBlobs_ne_missing _ _ _ rest)
    exact hblobs.map _

end

lemma input_null {t : Target} {f : Field Artifact} {rest : List String} {x : Input}
    (hnull : t.value = some .null) (hverb : t.verb ≠ .remove) (h : t.input f rest = .ok x) :
    ∃ v, x = .value v := by
  rw [input] at h
  split at h
  · obtain ⟨v, _, h⟩ := Outcome.bind_eq_ok.1 h
    exact ⟨v, (Except.ok.inj h).symm⟩
  · rcases rest with _ | ⟨segment, _ | ⟨next, rest⟩⟩
    · rw [editLinks, assignIds, if_neg hverb, givenValue, hnull] at h
      exact ⟨none, (Except.ok.inj h).symm⟩
    · rw [editLinks] at h
      split at h
      · obtain ⟨i, _, h⟩ := Outcome.bind_eq_ok.1 h
        obtain ⟨ids, hids, _⟩ := Outcome.bind_eq_ok.1 h
        obtain ⟨path, name, verb, value⟩ := t
        obtain rfl : value = some .null := hnull
        cases verb with
        | remove => exact absurd rfl hverb
        | _ => cases hids
      · cases h
    · cases h
  · obtain ⟨v, _, h⟩ := Outcome.bind_eq_ok.1 h
    exact ⟨v, (Except.ok.inj h).symm⟩

end Target

lemma Path.parse_ne_missing (path name : String) :
    (Path.parse path).mapError Fault.path ≠ .error (.path ⟨path, .valueMissing name⟩) := by
  rw [parse]
  unfold segments
  split
  · exact fun h => by cases h
  · rename_i heq
    split at heq
    · split_ifs at heq
      · cases heq
        exact fun h => by cases h
      · cases heq
        exact fun h => by cases h
      · split at heq
        · cases heq
        · cases heq
          exact fun h => by cases h
    · cases heq
      exact fun h => by cases h

namespace Operation

def received (operation : Operation) : Operation :=
  { operation with value := valueOf operation.value }

def missing (operation : Operation) : Fault :=
  .path ⟨operation.path, .valueMissing operation.verb.name⟩

def Ignores (operation : Operation) (a : Artifact) : Prop :=
  ∀ value, ({ operation with value := value }).input a = ({ operation with value := none }).input a

variable {operation : Operation} {a : Artifact}

lemma received_eq_self_iff : operation.received = operation ↔ operation.value ≠ some .null := by
  obtain ⟨verb, path, value⟩ := operation
  cases value with
  | none => exact iff_of_true rfl nofun
  | some j => cases j <;> simp [received, valueOf]

lemma ofJson?_fields {verb : Verb} {path : String} {fields : List (String × Json)}
    (hop : fields.lookup "op" = some (.str verb.name))
    (hpath : fields.lookup "path" = some (.str path)) :
    ofJson? (.obj fields) = some ⟨verb, path, valueOf (fields.lookup "value")⟩ := by
  have hverb : Verb.ofJson? (.str verb.name) = some verb := Verb.ofName?_name verb
  simp [ofJson?, hop, hpath, hverb, Json.str?]

lemma ofJson?_received (operation : Operation) : ofJson? operation.toJson = some operation.received := by
  obtain ⟨verb, path, value⟩ := operation
  have hnodup : (Dict.keys ([("op", .str verb.name), ("path", .str path)] ++
      (value.toList.map fun value => ("value", value)))).Nodup := by
    cases value <;> simp
  have hlookup := Dict.lookup_ofList hnodup
  have hvalue := hlookup "value"
  rw [toJson, Json.record, ofJson?_fields ((hlookup "op").trans rfl) ((hlookup "path").trans rfl), hvalue]
  cases value <;> rfl

lemma listOfJson?_received (operations : List Operation) :
    listOfJson? (.arr (operations.map toJson)) = some (operations.map received) := by
  change (operations.map toJson).mapM ofJson? = _
  induction operations with
  | nil => rfl
  | cons operation rest ih =>
    rw [List.map_cons, List.mapM_cons, ofJson?_received, ih]
    rfl

lemma use_input (path : String) (verb : Verb) (j : Json) (a : Artifact) :
    Use verb (missing ⟨verb, path, none⟩) (input ⟨verb, path, none⟩ a)
      (input ⟨verb, path, some j⟩ a) := by
  refine .bind (Path.parse_ne_missing path verb.name) fun segments => ?_
  cases segments with
  | nil => exact .ignored rfl fun h => by cases h
  | cons name rest =>
    dsimp only
    cases a.field? name with
    | none => exact .ignored rfl fun h => by cases h
    | some f => exact (Target.use_input path name j f rest).map _

lemma ignores_iff :
    operation.Ignores a ↔ ({ operation with value := none }).input a ≠ .error operation.missing := by
  obtain ⟨verb, path, value⟩ := operation
  constructor
  · intro h hbare
    cases use_input path verb .null a with
    | ignored _ hne => exact hne hbare
    | demanded _ _ hgiven => exact hgiven ((h (some .null)).trans hbare)
  · intro h value
    cases value with
    | none => rfl
    | some j =>
      cases use_input path verb j a with
      | ignored heq _ => exact heq
      | demanded _ hbare _ => exact absurd hbare h

lemma ignores_of_remove (h : operation.verb = .remove) (a : Artifact) : operation.Ignores a := by
  obtain ⟨verb, path, value⟩ := operation
  refine ignores_iff.2 fun hbare => ?_
  cases use_input path verb .null a with
  | ignored _ hne => exact hne hbare
  | demanded hverb _ _ => exact hverb h

lemma input_null {x : String × Input} (hnull : operation.value = some .null)
    (hverb : operation.verb ≠ .remove) (h : operation.input a = .ok x) : ∃ v, x.2 = .value v := by
  obtain ⟨segments, _, h⟩ := Outcome.bind_eq_ok.1 h
  cases segments with
  | nil => cases h
  | cons name rest =>
    dsimp only at h
    cases hf : a.field? name with
    | none =>
      rw [hf] at h
      cases h
    | some f =>
      rw [hf] at h
      obtain ⟨input, hi, h⟩ := Outcome.bind_eq_ok.1 h
      obtain rfl := Except.ok.inj h
      exact Target.input_null hnull hverb hi

lemma null_ne_missing (hnull : operation.value = some .null)
    (hbare : ({ operation with value := none }).input a = .error operation.missing) :
    operation.input a ≠ .error operation.missing := by
  obtain ⟨verb, path, value⟩ := operation
  obtain rfl : value = some .null := hnull
  cases use_input path verb .null a with
  | ignored _ hne => exact absurd hbare hne
  | demanded _ _ hgiven => exact hgiven

lemma received_null (h : operation.value = some .null) :
    operation.received = { operation with value := none } := by
  rw [received, h, valueOf]

lemma checkAllowed_received (allowed : List Verb) (operation : Operation) :
    operation.received.checkAllowed allowed = operation.checkAllowed allowed := rfl

end Operation

end Patch

namespace Desk

open Patch

section

variable [ArtifactPredicates] [Predicates Artifact] {layers : List Layer} {allowed : List Verb}
  {operation : Operation} {operations : List Operation} {d d' : Desk} {e : Fault}

omit [ArtifactPredicates] [Predicates Artifact] in
lemma resolve_value_error {l : Links} {own name : String} {isList : Bool}
    {v : Option (Value Artifact)} (h : l.resolve own name isList (.value v) = .error e)
    (p : PathError) : e ≠ .path p := by
  rcases Outcome.bind_eq_error.1 h with h | ⟨_, _, h⟩
  · obtain ⟨target, _, htarget⟩ := Outcome.forM_error h
    rw [Links.notOwn] at htarget
    split at htarget
    · cases htarget
      exact fun h => by cases h
    · cases htarget
  · cases h

lemma assign_value_error {name : String} {v : Option (Value Artifact)}
    (h : d.assign layers name (.value v) = (d', .error e)) (p : PathError) : e ≠ .path p := by
  induction layers generalizing d' e v with
  | nil =>
    simp only [assign, Artifact.assign] at h
    cases ha : d.artifact.set name v with
    | ok a => simp [ha, Except.mapError] at h
    | error fault =>
      simp only [ha, Except.mapError, Prod.mk.injEq, Except.error.injEq] at h
      rw [← h.2]
      exact fun h => by cases h
  | cons layer below ih =>
    cases layer with
    | update allowed => exact ih h
    | dependency l =>
      rw [assign] at h
      cases hf : d.artifact.findField name with
      | error fault =>
        rw [hf] at h
        cases h
        exact fun h => by cases h
      | ok f =>
        rw [hf] at h
        dsimp only at h
        split at h
        · split at h
          · exact ih h
          · rename_i hr
            cases h
            exact resolve_value_error hr p
        · exact ih h
    | location i =>
      rw [assign] at h
      cases hf : d.artifact.blobField name with
      | error fault =>
        rw [hf] at h
        exact ih h
      | ok f =>
        simp only [hf, Input.isUpload, Bool.false_and, Bool.false_eq_true, if_false,
          assignBlob] at h
        rcases hw : d.assign below name (.value v) with ⟨x, fault | _⟩
        · rw [hw, settle] at h
          cases h
          exact ih hw
        · rw [hw, settle] at h
          cases h

lemma applyOperation_received (h : operation.value = some .null → operation.Ignores d.artifact) :
    d.applyOperation layers operation.received = d.applyOperation layers operation := by
  by_cases hnull : operation.value = some .null
  · have hsame : operation.input d.artifact = operation.received.input d.artifact := by
      rw [Operation.received_null hnull]
      exact h hnull operation.value
    rw [applyOperation, applyOperation, hsame]
  · rw [Operation.received_eq_self_iff.2 hnull]

lemma ignores_of_applyOperation (hnull : operation.value = some .null)
    (h : d.applyOperation layers operation.received = d.applyOperation layers operation) :
    operation.Ignores d.artifact := by
  by_contra hlooks
  have hbare := not_not.1 (mt Operation.ignores_iff.2 hlooks)
  have hverb : operation.verb ≠ .remove := fun hv => hlooks (Operation.ignores_of_remove hv _)
  rw [applyOperation, Operation.received_null hnull, hbare, applyOperation] at h
  rcases hx : operation.input d.artifact with fault | ⟨name, input⟩
  · rw [hx] at h
    obtain rfl : operation.missing = fault := Except.error.inj (congrArg Prod.snd h)
    exact Operation.null_ne_missing hnull hbare hx
  · obtain ⟨v, hv⟩ := Operation.input_null hnull hverb hx
    obtain rfl : input = .value v := hv
    rw [hx] at h
    exact assign_value_error h.symm _ rfl

lemma applyOperation_received_iff :
    d.applyOperation layers operation.received = d.applyOperation layers operation ↔
      (operation.value = some .null → operation.Ignores d.artifact) :=
  ⟨fun h hnull => ignores_of_applyOperation hnull h, applyOperation_received⟩

lemma patch_single (h : operation.checkAllowed allowed = .ok ()) :
    d.patch layers allowed [operation] = d.applyOperation layers operation := by
  rw [patch, h]
  dsimp only
  rcases d.applyOperation layers operation with ⟨d', fault | _⟩ <;> rfl

/-- The operations of a batch, and those of each of its beginnings, do on arrival what they do as
they are sent. -/
def Travels (layers : List Layer) (allowed : List Verb) (operations : List Operation) (d : Desk) :
    Prop :=
  ∀ n, d.patch layers allowed ((operations.map Operation.received).take n) =
    d.patch layers allowed (operations.take n)

def NullFree (layers : List Layer) (allowed : List Verb) (operations : List Operation) (d : Desk) :
    Prop :=
  ∀ k operation, operations[k]? = some operation → operation.value = some .null →
    operation.checkAllowed allowed = .ok () →
    (∀ i < k, d.faultAt? layers allowed operations i = none) →
    operation.Ignores (d.applyEach layers (operations.take k)).artifact

lemma refusal?_received (h : operation.checkAllowed allowed = .ok () →
      d.applyOperation layers operation.received = d.applyOperation layers operation) :
    d.refusal? layers allowed operation.received = d.refusal? layers allowed operation := by
  rw [refusal?, refusal?, Operation.checkAllowed_received]
  cases hc : operation.checkAllowed allowed with
  | error e => rfl
  | ok _ => rw [h hc]

lemma allowed_of_refusal? (h : d.refusal? layers allowed operation = none) :
    operation.checkAllowed allowed = .ok () := by
  rw [refusal?] at h
  cases hc : operation.checkAllowed allowed with
  | error e => simp [hc] at h
  | ok _ => rfl

lemma travels_cons : d.Travels layers allowed (operation :: operations) ↔
    (operation.checkAllowed allowed = .ok () →
      d.applyOperation layers operation.received = d.applyOperation layers operation) ∧
    (d.refusal? layers allowed operation = none →
      (d.applyOperation layers operation).1.Travels layers allowed operations) := by
  constructor
  · intro h
    have hfirst : operation.checkAllowed allowed = .ok () →
        d.applyOperation layers operation.received = d.applyOperation layers operation := by
      intro hc
      have hone : d.patch layers allowed [operation.received] =
          d.patch layers allowed [operation] := h 1
      have hreceived : operation.received.checkAllowed allowed = .ok () := hc
      rwa [patch_single hreceived, patch_single hc] at hone
    refine ⟨hfirst, fun hnone n => ?_⟩
    have hnext := h (n + 1)
    have hsame := refusal?_received hfirst
    rw [List.map_cons, List.take_succ_cons, List.take_succ_cons, patch_accepted hnone,
      patch_accepted (hsame.trans hnone)] at hnext
    rwa [hfirst (allowed_of_refusal? hnone)] at hnext
  · rintro ⟨hfirst, hrest⟩ n
    have hsame := refusal?_received hfirst
    cases n with
    | zero => rfl
    | succ n =>
      rw [List.map_cons, List.take_succ_cons, List.take_succ_cons]
      cases hr : d.refusal? layers allowed operation with
      | some f => rw [patch_refused hr, patch_refused (hsame.trans hr)]
      | none =>
        rw [patch_accepted hr, patch_accepted (hsame.trans hr), hfirst (allowed_of_refusal? hr)]
        exact hrest hr n

lemma nullFree_cons : d.NullFree layers allowed (operation :: operations) ↔
    (operation.checkAllowed allowed = .ok () → operation.value = some .null →
      operation.Ignores d.artifact) ∧
    (d.refusal? layers allowed operation = none →
      (d.applyOperation layers operation).1.NullFree layers allowed operations) := by
  constructor
  · intro h
    refine ⟨fun hc hnull => h 0 operation rfl hnull hc nofun, fun hnone k later hk hnull hc hbefore => ?_⟩
    refine h (k + 1) later hk hnull hc fun i hi => ?_
    cases i with
    | zero => exact hnone
    | succ i => exact hbefore i (Nat.lt_of_succ_lt_succ hi)
  · rintro ⟨hfirst, hrest⟩ k later hk hnull hc hbefore
    cases k with
    | zero =>
      obtain rfl := Option.some.inj hk
      exact hfirst hc hnull
    | succ k =>
      exact hrest (hbefore 0 k.succ_pos) k later hk hnull hc fun i hi =>
        hbefore (i + 1) (Nat.succ_lt_succ hi)

lemma travels_iff : d.Travels layers allowed operations ↔ d.NullFree layers allowed operations := by
  induction operations generalizing d with
  | nil => exact iff_of_true (fun n => rfl) nofun
  | cons operation rest ih =>
    rw [travels_cons, nullFree_cons]
    refine and_congr ?_ (imp_congr_right fun _ => ih)
    exact imp_congr_right fun _ => applyOperation_received_iff

end

end Desk

namespace Engine

open Patch

section

variable [ArtifactPredicates] [Predicates Artifact]

lemma patch_received {e : Engine} {id : String} {a : Artifact} {operations : List Operation}
    (ha : e.get id = .ok a)
    (h : (e.desk a).NullFree e.layers e.settings.allowedPatches operations) (now : Instant) :
    e.patch now id (operations.map Operation.received) = e.patch now id operations := by
  have hall := Desk.travels_iff.2 h operations.length
  rw [List.take_of_length_le (by simp), List.take_length] at hall
  rw [patch, patch, ha]
  dsimp only
  rw [patchArtifact_eq, patchArtifact_eq, hall]

/-- What is written to JSON is read back, but for values of null, which are gone. A batch and all its
beginnings do on arrival what they do as sent exactly if no operation that is reached looks at a value
of null, which are those operations that are refused where there is no value, and no removals. -/
theorem patch_on_arrival :
    (∀ operations : List Operation,
      Operation.listOfJson? (.arr (operations.map Operation.toJson)) =
        some (operations.map Operation.received)) ∧
    (∀ operation : Operation, operation.received = operation ↔ operation.value ≠ some .null) ∧
    (∀ (layers : List Layer) (allowed : List Verb) (operations : List Operation) (d : Desk),
      d.Travels layers allowed operations ↔ d.NullFree layers allowed operations) ∧
    (∀ (operation : Operation) (a : Artifact),
      (operation.Ignores a ↔
        ({ operation with value := none }).input a ≠ .error operation.missing) ∧
      (operation.verb = .remove → operation.Ignores a)) ∧
    ∀ (e : Engine) (now : Instant) (id : String) (operations : List Operation) (a : Artifact),
      e.get id = .ok a → (e.desk a).NullFree e.layers e.settings.allowedPatches operations →
        e.patch now id (operations.map Operation.received) = e.patch now id operations := by
  refine ⟨Operation.listOfJson?_received, fun operation => Operation.received_eq_self_iff,
    fun layers allowed operations d => Desk.travels_iff, fun operation a => ?_, ?_⟩
  · exact ⟨Operation.ignores_iff, fun hverb => Operation.ignores_of_remove hverb a⟩
  · exact fun e now id operations a ha h => patch_received ha h now

end

namespace Sample

open Session.Sample

attribute [local instance] Predicates.parityAndSize ArtifactPredicates.owned

def withdraw : Operation :=
  ⟨.remove, "/title", some .null⟩

theorem patch_on_arrival_page :
    stored.get "a" = .ok titled ∧ withdraw.received ≠ withdraw ∧
    (stored.desk titled).NullFree stored.layers stored.settings.allowedPatches
      [withdraw, rename] ∧
    stored.patch ⟨1, 0⟩ "a" [withdraw.received, rename] =
      stored.patch ⟨1, 0⟩ "a" [withdraw, rename] := by
  obtain ⟨_, hreceived, _, hignores, hengine⟩ := patch_on_arrival
  have hfree : (stored.desk titled).NullFree stored.layers stored.settings.allowedPatches
      [withdraw, rename] := by
    intro k operation hk hnull _ _
    match k with
    | 0 =>
      obtain rfl := Option.some.inj hk
      exact (hignores withdraw _).2 rfl
    | 1 =>
      obtain rfl := Option.some.inj hk
      cases hnull
    | k + 2 => cases hk
  exact ⟨get_stored, fun h => (hreceived withdraw).1 h rfl, hfree,
    hengine stored ⟨1, 0⟩ "a" [withdraw, rename] titled get_stored hfree⟩

end Sample

end Engine

namespace Artifact.Sample

open Patch

attribute [local instance] Predicates.parityAndSize ArtifactPredicates.owned

def uncount : Operation :=
  ⟨.replace, "/counts", some .null⟩

/-- Counts that are replaced by null are cleared, but on arrival there is nothing to replace them by. -/
theorem uncount_refused :
    (∃ d, furnished.patch [] Verb.all [uncount] = (d, .ok ()) ∧ d.artifact.peek "counts" = none) ∧
    furnished.patch [] Verb.all [uncount.received] =
      (furnished, .error (.path ⟨"/counts", .valueMissing "replace"⟩)) ∧
    ¬∀ (layers : List Layer) (allowed : List Verb) (operations received : List Operation)
        (d : Desk),
      Operation.listOfJson? (.arr (operations.map Operation.toJson)) = some received →
        d.patch layers allowed received = d.patch layers allowed operations := by
  have hsent : ∃ d, furnished.patch [] Verb.all [uncount] = (d, .ok ()) ∧
      d.artifact.peek "counts" = none := ⟨_, rfl, rfl⟩
  have harrived : furnished.patch [] Verb.all [uncount.received] =
      (furnished, .error (.path ⟨"/counts", .valueMissing "replace"⟩)) := rfl
  refine ⟨hsent, harrived, fun h => ?_⟩
  obtain ⟨d, hd, _⟩ := hsent
  have hread := Operation.listOfJson?_received [uncount]
  have hsame := h [] Verb.all [uncount] [uncount.received] furnished hread
  cases harrived.symm.trans (hsame.trans hd)

end Artifact.Sample

end TypedArtifacts
