import TypedArtifacts.Proofs.Artifact.Canonical
import TypedArtifacts.Proofs.Patch.Edit

namespace TypedArtifacts

namespace Patch

def asPlaced (d : Definition Artifact) (vs : List (Value Artifact)) : List (Value Artifact) :=
  match d.kind with
  | .tuple items => Definition.normalizeItems items vs
  | _ => vs

section

variable {arrange arrange' : Definition Artifact → List (Value Artifact) → List (Value Artifact)}
  {verb : Verb} {value : Option Json} {d : Definition Artifact} {v w : Value Artifact}
  {path : List String} {current r : Option (Value Artifact)}

lemma Given.normalize_eq (h : Given value d v) : d.normalize v = v := by
  obtain ⟨j, _, hj⟩ := h
  exact d.normalize_fromJsonAs hj

lemma normalize_asPlaced (d : Definition Artifact) (vs : List (Value Artifact)) :
    d.normalize (.list (asPlaced d vs)) = d.normalize (.list vs) := by
  obtain ⟨t, kind⟩ := d
  cases kind with
  | tuple items =>
    have hidem := Definition.normalizeItems_idem (fun d (_ : d ∈ items) => d.normalize_idem) vs
    simp only [asPlaced, Definition.normalize, Definition.normalizeKind, hidem]
  | _ => rfl

lemma EditedAt.change
    (harrange : ∀ (d : Definition Artifact) vs,
      d.normalize (.list (arrange d vs)) = d.normalize (.list (arrange' d vs)))
    (h : EditedAt arrange verb value path d v w) :
    ∃ w', EditedAt arrange' verb value path d v w' ∧ d.normalize w' = d.normalize w := by
  induction h with
  | here h =>
    cases h with
    | insert hv hi hp hg => exact ⟨_, .here (.insert hv hi hp hg), (harrange _ _).symm⟩
    | overwrite hv hi hp hg => exact ⟨_, .here (.overwrite hv hi hp hg), rfl⟩
    | delete hv hi hp => exact ⟨_, .here (.delete hv hi hp), (harrange _ _).symm⟩
    | put hv hp hg => exact ⟨_, .here (.put hv hp hg), rfl⟩
    | drop hv hk hp => exact ⟨_, .here (.drop hv hk hp), rfl⟩
  | item hi hp hget _ ih =>
    obtain ⟨u, hu, hn⟩ := ih
    refine ⟨_, .item hi hp hget hu, ?_⟩
    rw [Definition.normalize_set hp, Definition.normalize_set hp, hn]
  | entry hp hget _ ih =>
    obtain ⟨u, hu, hn⟩ := ih
    refine ⟨_, .entry hp hget hu, ?_⟩
    rw [Definition.normalize_insert hp, Definition.normalize_insert hp, hn]

lemma Edited.change
    (harrange : ∀ (d : Definition Artifact) vs,
      d.normalize (.list (arrange d vs)) = d.normalize (.list (arrange' d vs)))
    (h : Edited arrange verb value d current path r) :
    ∃ r', Edited arrange' verb value d current path r' ∧
      r'.map d.normalize = r.map d.normalize := by
  cases h with
  | clear hv => exact ⟨none, .clear hv, rfl⟩
  | whole hv hg => exact ⟨_, .whole hv hg, rfl⟩
  | within hc hat =>
    obtain ⟨w', hw', hn⟩ := hat.change harrange
    exact ⟨some w', .within hc hw', congrArg some hn⟩

lemma normal_set {vs : List (Value Artifact)} {i : ℕ} {p : Definition Artifact}
    (hp : d.itemAt? i = some p) (hv : d.normalize (.list vs) = .list vs)
    (hw : p.normalize w = w) : d.normalize (.list (vs.set i w)) = .list (vs.set i w) := by
  rw [Definition.normalize_list (Definition.isList_of_itemAt hp)] at hv
  rw [Definition.normalize_set hp, hw, Value.list.inj hv]

lemma normal_insert {es : List (String × Value Artifact)} {key : String}
    {p : Definition Artifact} (hp : d.valueAt? key = some p)
    (hv : d.normalize (.dict es) = .dict es) (hw : p.normalize w = w) :
    d.normalize (.dict (Dict.insert key w es)) = .dict (Dict.insert key w es) := by
  rw [Definition.normalize_dict (Definition.isDict_of_valueAt hp)] at hv
  rw [Definition.normalize_insert hp, hw, Value.dict.inj hv]

lemma normal_asPlaced {vs ws : List (Value Artifact)} (hd : d.kind.isList = true)
    (hv : d.normalize (.list vs) = .list vs)
    (hm : ∀ w ∈ ws, w ∈ vs ∨ ∃ i p, d.itemAt? i = some p ∧ p.normalize w = w) :
    d.normalize (.list (asPlaced d ws)) = .list (asPlaced d ws) := by
  obtain ⟨t, kind⟩ := d
  cases kind with
  | tuple items =>
    have hidem := Definition.normalizeItems_idem (fun d (_ : d ∈ items) => d.normalize_idem) ws
    simp only [asPlaced, Definition.normalize, Definition.normalizeKind, hidem]
  | list item =>
    have hitem : ∀ w ∈ vs, item.normalize w = id w :=
      List.map_inj_left.1 ((Value.list.inj hv).trans (List.map_id vs).symm)
    have hall : ∀ w ∈ ws, item.normalize w = id w := by
      intro w hw
      rcases hm w hw with hw | ⟨_, p, hp, hw⟩
      · exact hitem w hw
      · obtain rfl := Option.some.inj hp
        exact hw
    exact congrArg Value.list ((List.map_inj_left.2 hall).trans (List.map_id ws))
  | _ => cases hd

lemma EditedIn.normalize_eq {segment : String} (h : EditedIn asPlaced verb value segment d v w)
    (hv : d.normalize v = v) : d.normalize w = w := by
  cases h with
  | insert _ _ hp hg =>
    refine normal_asPlaced (Definition.isList_of_itemAt hp) hv fun w hw => ?_
    rcases List.eq_or_mem_of_mem_insertIdx hw with rfl | hw
    · exact .inr ⟨_, _, hp, hg.normalize_eq⟩
    · exact .inl hw
  | overwrite _ _ hp hg => exact normal_set hp hv hg.normalize_eq
  | delete _ _ hp =>
    exact normal_asPlaced (Definition.isList_of_itemAt hp) hv fun w hw =>
      .inl (List.mem_of_mem_eraseIdx hw)
  | put _ hp hg => exact normal_insert hp hv hg.normalize_eq
  | drop _ _ hp =>
    have hd := Definition.isDict_of_valueAt hp
    rw [Definition.normalize_dict hd] at hv
    rw [Definition.normalize_erase hd, Value.dict.inj hv]

lemma EditedAt.normalize_eq (h : EditedAt asPlaced verb value path d v w)
    (hv : d.normalize v = v) : d.normalize w = w := by
  induction h with
  | here h => exact h.normalize_eq hv
  | @item _ _ d p vs i _ _ _ hp hget _ ih =>
    have hitem := hv
    rw [Definition.normalize_list (Definition.isList_of_itemAt hp)] at hitem
    have hat := congrArg (·[i]?) (Value.list.inj hitem)
    simp only [List.getElem?_mapIdx, hget, Option.map_some, Option.some.injEq] at hat
    rw [Definition.normalizeAt_eq hp] at hat
    exact normal_set hp hv (ih hat)
  | @entry segment _ d p es v _ hp hget _ ih =>
    have hentries := hv
    rw [Definition.normalize_dict (Definition.isDict_of_valueAt hp)] at hentries
    have hat := congrArg (List.lookup segment) (Value.dict.inj hentries)
    rw [Dict.lookup_map, hget, Option.map_some, Option.some.injEq,
      Definition.normalizeUnder_eq hp] at hat
    exact normal_insert hp hv (ih hat)

lemma normalize_emptyContainer (h : d.emptyContainer? = some v) : d.normalize v = v := by
  unfold Definition.emptyContainer? at h
  split at h
  · obtain rfl := Option.some.inj h
    rw [Definition.normalize_list ‹_›]
    rfl
  · split at h
    · obtain rfl := Option.some.inj h
      rw [Definition.normalize_dict ‹_›]
      rfl
    · cases h

lemma Edited.normalize_eq (h : Edited asPlaced verb value d current path r)
    (hcurrent : ∀ v, current = some v → d.normalize v = v) : r.map d.normalize = r := by
  cases h with
  | clear => rfl
  | whole _ hg => exact congrArg some hg.normalize_eq
  | @within _ v w hc hat =>
    have hv : d.normalize v = v := by
      cases current with
      | none => exact normalize_emptyContainer hc
      | some u =>
        obtain rfl := Option.some.inj hc
        exact hcurrent u rfl
    exact congrArg some (hat.normalize_eq hv)

end

lemma Operation.input_property {operation : Operation} {a : Artifact} {name : String}
    {rest : List String} {f : Field Artifact}
    (hpath : Path.parse operation.path = .ok (name :: rest))
    (hf : a.fields.lookup name = some f) (hr : f.definition.role = .property) :
    operation.input a = (Target.editValue ⟨operation.path, name, operation.verb, operation.value⟩
      rest f.definition f.value?).map fun w => (name, .value w) := by
  rw [Operation.input, hpath]
  simp only [Except.mapError, Outcome.ok_bind, Artifact.field?, hf, Target.input, hr]
  cases Target.editValue ⟨operation.path, name, operation.verb, operation.value⟩ rest
    f.definition f.value? <;> rfl

end Patch

namespace Artifact

variable [ArtifactPredicates] [Predicates Artifact] {a b : Artifact} {name : String}
  {f : Field Artifact}

lemma set_congr {v w : Option (Value Artifact)}
    (hf : a.fields.lookup name = some f)
    (h : v.map f.definition.normalize = w.map f.definition.normalize) :
    a.set name v = a.set name w := by
  simp only [Artifact.set, findField_of_lookup hf, Outcome.ok_bind, Field.set, Field.store, h]

lemma set_eq_withField {w : Option (Value Artifact)}
    (hf : a.fields.lookup name = some f) (h : a.set name w = .ok b) :
    b = a.withField name (f.commit (w.map f.definition.normalize)) := by
  obtain ⟨f', g, hf', _, hstore, rfl⟩ := set_ok h
  obtain rfl := Option.some.inj (hf.symm.trans hf')
  obtain ⟨_, rfl⟩ := Field.store_ok hstore
  rfl

end Artifact

namespace Desk

variable [ArtifactPredicates] [Predicates Artifact] {d : Desk} {name : String} {f : Field Artifact}

lemma assign_property (hf : d.artifact.fields.lookup name = some f)
    (hr : f.definition.role = .property) (layers : List Layer) (input : Input) :
    d.assign layers name input = d.assign [] name input := by
  have hfind := Artifact.findField_of_lookup hf
  induction layers with
  | nil => rfl
  | cons layer below ih =>
    rw [← ih]
    cases layer with
    | dependency l =>
      rw [assign, hfind]
      simp [hr]
    | location i =>
      rw [assign, Artifact.blobField, hfind]
      simp [hr, throw, throwThe, MonadExceptOf.throw]
    | update allowed => rfl

section

variable {operation : Patch.Operation} {rest : List String}

lemma applyOperation_placed (hpath : Patch.Path.parse operation.path = .ok (name :: rest))
    (hf : d.artifact.fields.lookup name = some f) (hr : f.definition.role = .property)
    (hvalue : operation.value ≠ some .null) (layers : List Layer) {w : Option (Value Artifact)}
    (hw : Patch.Edited Patch.asPlaced operation.verb operation.value f.definition f.value? rest w) :
    d.applyOperation layers operation =
      match d.artifact.set name w with
      | .ok a => ({ d with artifact := a }, .ok ())
      | .error e => (d, .error (.validation e)) := by
  obtain ⟨u, hu, hn⟩ := hw.change Patch.normalize_asPlaced
  have hedit : Patch.Target.editValue ⟨operation.path, name, operation.verb, operation.value⟩ rest
      f.definition f.value? = .ok u := (Patch.Target.editValue_eq_ok hvalue).2 hu
  have hset : d.artifact.assign name (.value u) = (d.artifact.set name w).mapError .validation := by
    rw [Artifact.assign, Artifact.set_congr hf hn]
  rw [applyOperation, Patch.Operation.input_property hpath hf hr, hedit]
  simp only [Except.map, assign_property hf hr, assign, hset]
  cases d.artifact.set name w <;> rfl

lemma applyOperation_misplaced (hpath : Patch.Path.parse operation.path = .ok (name :: rest))
    (hf : d.artifact.fields.lookup name = some f) (hr : f.definition.role = .property)
    (hvalue : operation.value ≠ some .null) (layers : List Layer)
    (h : ∀ w, ¬ Patch.Edited Patch.asPlaced operation.verb operation.value f.definition f.value?
      rest w) : ∃ e, d.applyOperation layers operation = (d, .error e) := by
  rw [applyOperation, Patch.Operation.input_property hpath hf hr]
  cases hu : Patch.Target.editValue ⟨operation.path, name, operation.verb, operation.value⟩ rest
      f.definition f.value? with
  | error e => exact ⟨e, rfl⟩
  | ok u =>
    have hedited := (Patch.Target.editValue_eq_ok hvalue).1 hu
    obtain ⟨w, hw, _⟩ := hedited.change fun d vs => (Patch.normalize_asPlaced d vs).symm
    exact absurd hw (h w)

end

/-- An operation on a property stores the edit that its path and verb ask for, and changes nothing
else. It fails, without a trace, only if there is no such edit or the edit must not be stored. -/
theorem applyOperation_property {operation : Patch.Operation} {rest : List String}
    (hpath : Patch.Path.parse operation.path = .ok (name :: rest))
    (hf : d.artifact.fields.lookup name = some f) (hr : f.definition.role = .property)
    (hvalue : operation.value ≠ some .null) (layers : List Layer) :
    (∀ d', d.applyOperation layers operation = (d', .ok ()) →
      ∃ w, Patch.Edited Patch.asPlaced operation.verb operation.value f.definition f.value? rest w ∧
        d' = { d with
          artifact := d.artifact.withField name (f.commit (w.map f.definition.normalize)) } ∧
        ((∀ v, f.value? = some v → f.definition.normalize v = v) →
          w.map f.definition.normalize = w)) ∧
      ∀ d' e, d.applyOperation layers operation = (d', .error e) → d' = d ∧
        ∀ w a, Patch.Edited Patch.asPlaced operation.verb operation.value f.definition f.value?
          rest w → d.artifact.set name w ≠ .ok a := by
  by_cases hex : ∃ w, Patch.Edited Patch.asPlaced operation.verb operation.value f.definition
      f.value? rest w
  · obtain ⟨w, hw⟩ := hex
    rw [applyOperation_placed hpath hf hr hvalue layers hw]
    cases hs : d.artifact.set name w with
    | ok b =>
      constructor
      · intro d' h
        obtain ⟨rfl, _⟩ := Prod.mk.inj h
        refine ⟨w, hw, ?_, hw.normalize_eq⟩
        rw [Artifact.set_eq_withField hf hs]
      · intro d' e h
        cases h
    | error e =>
      constructor
      · intro d' h
        cases h
      · intro d' e' h
        obtain ⟨rfl, _⟩ := Prod.mk.inj h
        refine ⟨rfl, fun w' a hw' hset => ?_⟩
        rw [hw'.unique hw, hs] at hset
        cases hset
  · have hnone := fun w hw => hex ⟨w, hw⟩
    obtain ⟨e, hx⟩ := applyOperation_misplaced hpath hf hr hvalue layers hnone
    rw [hx]
    constructor
    · intro d' h
      cases h
    · intro d' e' h
      obtain ⟨rfl, _⟩ := Prod.mk.inj h
      exact ⟨rfl, fun w a hw => absurd hw (hnone w)⟩

end Desk

namespace Artifact.Sample

open Definition

attribute [local instance] Predicates.parityAndSize ArtifactPredicates.owned

def furnished : Desk :=
  ⟨counted, fun _ => {}⟩

def addDesk : Patch.Operation :=
  ⟨.add, "/counts/study/desk", some (.int 2)⟩

theorem applyOperation_property_desk :
    Patch.Path.parse addDesk.path = .ok ["counts", "study", "desk"] ∧
    furnished.artifact.fields.lookup "counts" = some ⟨counts, some rooms, false⟩ ∧
    counts.role = .property ∧ addDesk.value ≠ some .null ∧
    ∃ w, Patch.Edited Patch.asPlaced .add addDesk.value counts (some rooms) ["study", "desk"] w ∧
      furnished.applyOperation [.update []] addDesk =
        ({ furnished with artifact := counted.withField "counts" ⟨counts, w, false⟩ }, .ok ()) := by
  have hpath : Patch.Path.parse addDesk.path = .ok ["counts", "study", "desk"] := rfl
  have hf : furnished.artifact.fields.lookup "counts" = some ⟨counts, some rooms, false⟩ := rfl
  have hrole : counts.role = .property := rfl
  have hvalue : addDesk.value ≠ some .null := nofun
  have hok : (furnished.applyOperation [.update []] addDesk).2 = .ok () := by
    rw [Desk.applyOperation, Patch.Operation.input_property hpath hf hrole]
    rfl
  rcases hx : furnished.applyOperation [.update []] addDesk with ⟨d, r⟩
  rw [hx] at hok
  obtain rfl : r = .ok () := hok
  obtain ⟨w, hw, hd, hnormal⟩ :=
    (Desk.applyOperation_property hpath hf hrole hvalue [.update []]).1 d hx
  have hn : w.map counts.normalize = w := by
    refine hnormal fun v hv => ?_
    obtain rfl : rooms = v := Option.some.inj hv
    exact (rfl : counts.normalize rooms = rooms)
  have hcommit : (⟨counts, some rooms, false⟩ : Field Artifact).commit w = ⟨counts, w, false⟩ := rfl
  rw [hn, hcommit] at hd
  exact ⟨hpath, hf, hrole, hvalue, w, hw, congrArg (·, _) hd⟩

def couple : Descriptor where
  name := "Couple"
  version := "1.0.0"
  attributes := [("pair", .tuple [.scalar .string, .scalar .text])]

def coupleType : ArtifactType :=
  couple.declare.toOption.get rfl

def pair : Definition Artifact :=
  (coupleType.attributes.lookup "pair").get rfl

def both : Value Artifact :=
  .list [.string "north", .text "south"]

def coupled : Artifact :=
  ((blank coupleType "c" start).set "pair" (some both)).toOption.get rfl

def dropFirst : Patch.Operation :=
  ⟨.remove, "/pair/0", none⟩

/-- The text moves to the position of the string, and is stored as a string. -/
theorem moved_converted : ∃ d, Desk.applyOperation [] dropFirst ⟨coupled, fun _ => {}⟩ = (d, .ok ()) ∧
    d.artifact.peek "pair" = some (.list [.string "south"]) ∧
    Patch.Edited Patch.asEdited .remove none pair (coupled.peek "pair") ["0"]
      (some (.list [.text "south"])) ∧
    ∀ w, Patch.Edited Patch.asEdited .remove none pair (coupled.peek "pair") ["0"] w →
      d.artifact.peek "pair" ≠ w := by
  have hpath : Patch.Path.parse dropFirst.path = .ok ["pair", "0"] := rfl
  have hf : coupled.fields.lookup "pair" = some ⟨pair, some both, false⟩ := rfl
  have hedit : Patch.Edited Patch.asEdited .remove none pair (coupled.peek "pair") ["0"]
      (some (.list [.text "south"])) :=
    .within rfl (.here (.delete rfl (.item rfl (by decide)) rfl))
  have hdone : ∃ d, Desk.applyOperation [] dropFirst ⟨coupled, fun _ => {}⟩ = (d, .ok ()) ∧
      d.artifact.peek "pair" = some (.list [.string "south"]) := by
    rw [Desk.applyOperation, Patch.Operation.input_property hpath hf rfl]
    exact ⟨_, rfl, rfl⟩
  obtain ⟨d, hd, hpeek⟩ := hdone
  refine ⟨d, hd, hpeek, hedit, fun w hw h => ?_⟩
  rw [hpeek, hw.unique hedit] at h
  cases h

end Artifact.Sample

end TypedArtifacts
