import TypedArtifacts.Proofs.Artifact.Respect
import TypedArtifacts.Proofs.Artifact.Written
import TypedArtifacts.Proofs.Assignment.Effects
import TypedArtifacts.Proofs.Layers
import TypedArtifacts.Proofs.Patch
import TypedArtifacts.Proofs.Patch.Edit

namespace TypedArtifacts

namespace Artifact

def IsDependency (a : Artifact) (name : String) : Prop :=
  ∃ f, a.field? name = some f ∧ f.definition.role = .dependency

def DependsOnItself (a : Artifact) : Prop :=
  ∃ e ∈ a.fieldsOf .dependency, ∃ t ∈ targets e.2.value?, t.id = a.id

end Artifact

namespace Links

def LeadsTo (l : Links) (own id : String) : Prop :=
  id = own ∨ ∃ t, l.lookup id = .ok t ∧ t.id = own

inductive NamedIn (l : Links) (own : String) : Json → Prop
  | id {id : String} : l.LeadsTo own id → NamedIn l own (.str id)
  | item {js : List Json} {id : String} : .str id ∈ js → l.LeadsTo own id → NamedIn l own (.arr js)

end Links

namespace Input

inductive Offers (l : Links) (own : String) : Input → Prop
  | value {v : Option (Value Artifact)} {t : Artifact} : t ∈ Artifact.targets v → t.id = own →
      Offers l own (.value v)
  | reference {id : String} : l.LeadsTo own id → Offers l own (.reference id)
  | references {ids : List String} {id : String} : id ∈ ids → l.LeadsTo own id →
      Offers l own (.references ids)
  | layered {t : Layered Artifact} : t.innermost.id = own → Offers l own (.layered t)

inductive IsItself (own : String) : Input → Prop
  | value {t : Artifact} : t.id = own → IsItself own (.value (some (.artifact t)))
  | reference : IsItself own (.reference own)
  | layered {t : Layered Artifact} : t.innermost.id = own → IsItself own (.layered t)

end Input

structure Patch.Operation.Offers (l : Links) (own name : String) (operation : Operation) : Prop where
  path : ∃ rest, Path.parse operation.path = .ok (name :: rest)
  verb : operation.verb ≠ .remove
  value : ∃ j, operation.value = some j ∧ l.NamedIn own j

namespace Links

variable {l : Links} {own name id : String} {isList : Bool} {input : Input}

lemma notOwn_eq_ok : notOwn own name id = .ok () ↔ id ≠ own := by
  unfold notOwn
  split <;> simp_all

def Finds (l : Links) (own id : String) (t : Artifact) : Prop :=
  id ≠ own ∧ l.lookup id = .ok t ∧ t.id ≠ own

lemma resolveId_ok {t : Artifact} (h : l.resolveId own name id = .ok t) : l.Finds own id t := by
  obtain ⟨_, hid, h⟩ := Outcome.bind_eq_ok.1 h
  obtain ⟨u, hu, h⟩ := Outcome.bind_eq_ok.1 h
  obtain ⟨_, hown, h⟩ := Outcome.bind_eq_ok.1 h
  obtain rfl := Except.ok.inj h
  exact ⟨notOwn_eq_ok.1 hid, hu, notOwn_eq_ok.1 hown⟩

lemma Finds.not_leadsTo {t : Artifact} (h : l.Finds own id t) : ¬l.LeadsTo own id := by
  obtain ⟨hid, ht, hown⟩ := h
  rintro (rfl | ⟨u, hu, hid⟩)
  · exact hid rfl
  · obtain rfl := Except.ok.inj (ht.symm.trans hu)
    exact hown hid

lemma unwrap_ok {t : Layered Artifact} {a : Artifact} (h : l.unwrap t = .ok a) :
    t.innermost = a := by
  rw [unwrap, Layered.unwrap?_eq] at h
  split at h
  · rename_i hu
    split at hu
    · obtain rfl := Except.ok.inj h
      exact Option.some.inj hu
    · cases hu
  · cases h

lemma targets_hold {ts : List Artifact} {t : Artifact}
    (h : t ∈ Artifact.targets (hold isList ts)) : t ∈ ts := by
  cases isList with
  | true => simpa [hold, Artifact.targets, List.filterMap_map, Value.artifact?] using h
  | false =>
    cases ts with
    | nil => simp [hold, Artifact.targets] at h
    | cons u us =>
      obtain rfl : t = u := by simpa [hold, Artifact.targets] using h
      exact List.mem_cons_self

inductive Resolves (l : Links) (own : String) (isList : Bool) :
    Input → Option (Value Artifact) → Prop
  | value {v : Option (Value Artifact)} : (∀ t ∈ Artifact.targets v, t.id ≠ own) →
      Resolves l own isList (.value v) v
  | reference {id : String} {t : Artifact} : l.Finds own id t →
      Resolves l own isList (.reference id) (hold isList [t])
  | references {ids : List String} {ts : List Artifact} : List.Forall₂ (l.Finds own) ids ts →
      Resolves l own isList (.references ids) (hold isList ts)
  | layered {t : Layered Artifact} : t.innermost.id ≠ own →
      Resolves l own isList (.layered t) (hold isList [t.innermost])

lemma resolve_ok {v : Option (Value Artifact)} (h : l.resolve own name isList input = .ok v) :
    Resolves l own isList input v := by
  cases input with
  | value w =>
    obtain ⟨_, hw, h⟩ := Outcome.bind_eq_ok.1 h
    obtain rfl := Except.ok.inj h
    exact .value fun t ht => notOwn_eq_ok.1 (Outcome.forM_eq_ok.1 hw t ht)
  | reference id =>
    obtain ⟨t, ht, h⟩ := Outcome.bind_eq_ok.1 h
    obtain rfl := Except.ok.inj h
    exact .reference (resolveId_ok ht)
  | references ids =>
    cases isList with
    | false => cases h
    | true =>
      obtain ⟨ts, hts, h⟩ := Outcome.bind_eq_ok.1 h
      obtain rfl := Except.ok.inj h
      exact .references ((Outcome.mapM_eq_ok.1 hts).imp fun _ _ => resolveId_ok)
  | layered target =>
    obtain ⟨t, ht, h⟩ := Outcome.bind_eq_ok.1 h
    obtain ⟨_, hown, h⟩ := Outcome.bind_eq_ok.1 h
    obtain rfl := Except.ok.inj h
    obtain rfl := unwrap_ok ht
    exact .layered (notOwn_eq_ok.1 hown)
  | upload u => cases h
  | uploads us => cases h

lemma Resolves.apart {v : Option (Value Artifact)} (h : Resolves l own isList input v) :
    ∀ t ∈ Artifact.targets v, t.id ≠ own := by
  intro t ht
  cases h with
  | value hv => exact hv t ht
  | reference hu =>
    obtain rfl := List.mem_singleton.1 (targets_hold ht)
    exact hu.2.2
  | references hts =>
    obtain ⟨id, _, hid⟩ := Outcome.exists_left hts (targets_hold ht)
    exact hid.2.2
  | layered hu =>
    obtain rfl := List.mem_singleton.1 (targets_hold ht)
    exact hu

lemma Resolves.not_offers {v : Option (Value Artifact)} (h : Resolves l own isList input v) :
    ¬input.Offers l own := by
  intro ho
  cases ho with
  | value ht hid =>
    cases h with
    | value hv => exact hv _ ht hid
  | reference hid =>
    cases h with
    | reference ht => exact ht.not_leadsTo hid
  | references hm hid =>
    cases h with
    | references hts =>
      obtain ⟨t, _, ht⟩ := Outcome.exists_right hts hm
      exact ht.not_leadsTo hid
  | layered hid =>
    cases h with
    | layered ht => exact ht hid

lemma resolve_offered (isList : Bool) (name : String) (h : input.Offers l own) :
    ∃ e, l.resolve own name isList input = .error e := by
  cases hr : l.resolve own name isList input with
  | error e => exact ⟨e, rfl⟩
  | ok v => exact absurd h (resolve_ok hr).not_offers

lemma resolve_itself (isList : Bool) (name : String) (h : input.IsItself own) :
    ∃ e, (e = .circular own name ∨ e = .tooDeep l.bound) ∧
      l.resolve own name isList input = .error (.link e) := by
  have hown : notOwn own name own = .error (.link (.circular own name)) := if_pos rfl
  cases h with
  | @value t ht =>
    refine ⟨_, .inl rfl, ?_⟩
    have hfor : (Artifact.targets (some (.artifact t))).forM (fun t => notOwn own name t.id) =
        (notOwn own name t.id >>= fun _ => .ok ()) := rfl
    rw [resolve, hfor, ht, hown]
    rfl
  | reference =>
    refine ⟨_, .inl rfl, ?_⟩
    rw [resolve, resolveId, hown]
    rfl
  | @layered t ht =>
    rw [resolve, unwrap, Layered.unwrap?_eq]
    by_cases hd : t.depth ≤ l.bound
    · refine ⟨_, .inl rfl, ?_⟩
      rw [if_pos hd, Outcome.ok_bind, ht, hown]
      rfl
    · refine ⟨_, .inr rfl, ?_⟩
      rw [if_neg hd]
      rfl

end Links

namespace Patch

variable {l : Links} {own name : String} {t : Target} {j : Json} {input : Input}

lemma Target.readId_ok {id : String} (h : t.readId j = .ok id) : j = .str id := by
  cases j with
  | str s => exact congrArg Json.str (Except.ok.inj h)
  | _ => cases h

lemma Target.readIds_ok {ids : List String} (h : t.readIds j = .ok ids) :
    ∃ js, j = .arr js ∧ js.mapM t.readId = .ok ids := by
  cases j with
  | arr js => exact ⟨js, rfl, h⟩
  | _ => cases h

lemma Target.offers_assignIds {isList : Bool} (hj : l.NamedIn own j) (hv : t.verb ≠ .remove)
    (hvalue : t.value = some j) (h : t.assignIds isList = .ok input) : input.Offers l own := by
  have hnull : j.isNull = false := by cases hj <;> rfl
  rw [assignIds, if_neg hv, givenValue_eq_ok.2 hvalue, Outcome.ok_bind, hnull,
    if_neg Bool.false_ne_true] at h
  cases isList with
  | true =>
    obtain ⟨ids, hids, h⟩ := Outcome.bind_eq_ok.1 h
    obtain rfl := Except.ok.inj h
    obtain ⟨js, rfl, hids⟩ := readIds_ok hids
    cases hj with
    | item hm hid =>
      obtain ⟨id, hmem, hread⟩ := Outcome.exists_right (Outcome.mapM_eq_ok.1 hids) hm
      obtain rfl := Json.str.inj (readId_ok hread)
      exact .references hmem hid
  | false =>
    obtain ⟨id, hread, h⟩ := Outcome.bind_eq_ok.1 h
    obtain rfl := Except.ok.inj h
    obtain rfl := readId_ok hread
    cases hj with
    | id hid => exact .reference hid

lemma Target.mem_editIds {i : ℕ} {segment : String} {ids ids' : List String}
    (hv : t.verb ≠ .remove) (hvalue : t.value = some j)
    (hi : t.index segment ids.length (t.verb = .add) = .ok i)
    (h : t.editIds i ids = .ok ids') : ∃ id ∈ ids', j = .str id := by
  have hposition := index_eq_ok.1 hi
  simp only [editIds, givenValue_eq_ok.2 hvalue, Outcome.ok_bind] at h
  split at h
  · obtain ⟨id, hread, h⟩ := Outcome.bind_eq_ok.1 h
    obtain rfl := Except.ok.inj h
    exact ⟨id, (List.mem_insertIdx hposition.le).2 (.inl rfl), readId_ok hread⟩
  · rename_i hverb
    obtain ⟨id, hread, h⟩ := Outcome.bind_eq_ok.1 h
    obtain rfl := Except.ok.inj h
    have hlt : i < ids.length := Position.lt (by simpa [hverb] using hposition)
    exact ⟨id, List.mem_set hlt id, readId_ok hread⟩
  · exact absurd ‹_› hv

lemma Target.offers_editLinks {isList : Bool} {current : Option (Value Artifact)}
    {rest : List String} (hj : l.NamedIn own j) (hv : t.verb ≠ .remove)
    (hvalue : t.value = some j) (h : t.editLinks isList current rest = .ok input) :
    input.Offers l own := by
  unfold editLinks at h
  split at h
  · exact offers_assignIds hj hv hvalue h
  · split at h
    · obtain ⟨i, hi, h⟩ := Outcome.bind_eq_ok.1 h
      obtain ⟨ids, hids, h⟩ := Outcome.bind_eq_ok.1 h
      obtain rfl := Except.ok.inj h
      obtain ⟨id, hmem, rfl⟩ := mem_editIds hv hvalue hi hids
      cases hj with
      | id hid => exact .references hmem hid
    · cases h
  · cases h

lemma Operation.offers_input {operation : Operation} {a : Artifact} {n : String}
    (ha : a.IsDependency name) (ho : operation.Offers l own name)
    (h : operation.input a = .ok (n, input)) : n = name ∧ input.Offers l own := by
  obtain ⟨⟨rest, hpath⟩, hv, j, hvalue, hj⟩ := ho
  obtain ⟨f, hf, hr⟩ := ha
  refine ⟨input_name hpath h, ?_⟩
  unfold Operation.input at h
  rw [hpath] at h
  simp only [Except.mapError, Outcome.ok_bind, hf] at h
  obtain ⟨i, hi, h⟩ := Outcome.bind_eq_ok.1 h
  obtain ⟨_, rfl⟩ := Prod.mk.inj (Except.ok.inj h)
  simp only [Target.input, hr] at hi
  exact Target.offers_editLinks hj hv hvalue hi

end Patch

namespace Artifact

structure Apart (own : String) (a : Artifact) : Prop where
  id_eq : a.id = own
  defaults : ∀ e ∈ a.fieldsOf .dependency, e.2.definition.default = none
  targets : ∀ e ∈ a.fieldsOf .dependency, ∀ t ∈ targets e.2.value?, t.id ≠ own

variable [ArtifactPredicates] [Predicates Artifact]

lemma Apart.set {own name : String} {v : Option (Value Artifact)} {a b : Artifact}
    (h : a.Apart own) (hv : a.IsDependency name → ∀ t ∈ Artifact.targets v, t.id ≠ own)
    (hb : a.set name v = .ok b) : b.Apart own := by
  obtain ⟨f, g, hf, _, hstore, rfl⟩ := set_ok hb
  obtain ⟨_, rfl⟩ := Field.store_ok hstore
  have hmem := Dict.mem_of_lookup hf
  -- A name may stand for several fields, and the write puts the same one in the place of each.
  have hfield : ∀ e ∈ (a.withField name (f.commit (v.map f.definition.normalize))).fieldsOf
      .dependency, (e = (name, f.commit (v.map f.definition.normalize)) ∧
        f.definition.role = .dependency) ∨ e ∈ a.fieldsOf .dependency := by
    intro e he
    obtain ⟨he, hr⟩ := mem_fieldsOf.1 he
    rcases mem_withField he with rfl | he
    · exact .inl ⟨rfl, hr⟩
    · exact .inr (mem_fieldsOf.2 ⟨he, hr⟩)
  refine ⟨h.id_eq, fun e he => ?_, fun e he => ?_⟩
  · rcases hfield e he with ⟨rfl, hr⟩ | he
    · exact h.defaults (name, f) (mem_fieldsOf.2 ⟨hmem, hr⟩)
    · exact h.defaults e he
  · rcases hfield e he with ⟨rfl, hr⟩ | he
    · have hnone : f.definition.default = none :=
        h.defaults (name, f) (mem_fieldsOf.2 ⟨hmem, hr⟩)
      have hshown : (f.commit (v.map f.definition.normalize)).value? = v := by
        cases v with
        | none => exact hnone
        | some w => exact congrArg some (Definition.normalize_dependency hr w)
      rw [hshown]
      exact hv ⟨f, hf, hr⟩
    · exact h.targets e he

end Artifact

section

variable [ArtifactPredicates] [Predicates Artifact]

namespace Draft

variable {l : Links} {own name : String} {input : Input} {d : Draft}

lemma writes_assign (l : Links) (name : String) (input : Input) (d : Draft) :
    d.artifact.Writes name (d.assign l name input).1.artifact (d.assign l name input).2 := by
  have h := Desk.writes_assign [.update [], .location 0, .dependency l] name input
    ⟨d.artifact, fun _ => d.storage⟩
  rwa [Desk.assign_proxied] at h

lemma assign_of_dependency {f : Field Artifact} (hf : d.artifact.field? name = some f)
    (hr : f.definition.role = .dependency) (l : Links) (input : Input) :
    d.assign l name input =
      match l.resolve d.artifact.id name f.definition.kind.isList input with
      | .error e => (d, .error e)
      | .ok v =>
        match d.artifact.set name v with
        | .ok a => ({ d with artifact := a }, .ok ())
        | .error e => (d, .error (.validation e)) := by
  have hfind : d.artifact.findField name = .ok f := Artifact.findField_of_lookup hf
  have hblob : d.artifact.blobField name = .error ⟨name, .notBlob, none⟩ := by
    simp [Artifact.blobField, hfind, hr]
    rfl
  simp only [assign, hblob, Artifact.assignLinked, hfind, Except.mapError, Outcome.ok_bind, hr,
    if_true]
  cases l.resolve d.artifact.id name f.definition.kind.isList input with
  | error e => rfl
  | ok v =>
    simp only [Outcome.ok_bind, Artifact.assign]
    cases d.artifact.set name v with
    | error e => rfl
    | ok a => rfl

lemma apart_assign (h : d.artifact.Apart own) (l : Links) (name : String) (input : Input) :
    (d.assign l name input).1.artifact.Apart own := by
  by_cases hdep : d.artifact.IsDependency name
  · obtain ⟨f, hf, hr⟩ := hdep
    rw [assign_of_dependency hf hr]
    cases hv : l.resolve d.artifact.id name f.definition.kind.isList input with
    | error e => exact h
    | ok v =>
      dsimp only
      cases hb : d.artifact.set name v with
      | error e => exact h
      | ok b => exact h.set (fun _ => h.id_eq ▸ (Links.resolve_ok hv).apart) hb
  · have hw := d.writes_assign l name input
    rcases hx : d.assign l name input with ⟨d', r⟩
    rw [hx] at hw
    cases r with
    | error e => exact (show d'.artifact = d.artifact from hw) ▸ h
    | ok _ =>
      obtain ⟨v, hb⟩ := hw
      exact h.set (fun hd => absurd hd hdep) hb

lemma apart_operation (h : d.artifact.Apart own) (l : Links) (operation : Patch.Operation) :
    (d.applyOperation l operation).1.artifact.Apart own := by
  rw [applyOperation]
  cases operation.input d.artifact with
  | error e => exact h
  | ok x => exact apart_assign h l x.1 x.2

lemma apart_patch (h : d.artifact.Apart own) (l : Links) (allowed : List Patch.Verb)
    (operations : List Patch.Operation) : (d.patch l allowed operations).1.artifact.Apart own := by
  induction operations generalizing d with
  | nil => exact h
  | cons operation rest ih =>
    rw [patch]
    cases operation.checkAllowed allowed with
    | error e => exact h
    | ok _ =>
      have hstep := apart_operation h l operation
      dsimp only
      rcases hx : d.applyOperation l operation with ⟨d', r⟩
      rw [hx] at hstep
      cases r with
      | error e => exact hstep
      | ok _ => exact ih hstep

inductive Request where
  | assign (l : Links) (name : String) (input : Input)
  | patch (l : Links) (allowed : List Patch.Verb) (operations : List Patch.Operation)

def serve (d : Draft) : Request → Draft
  | .assign l name input => (d.assign l name input).1
  | .patch l allowed operations => (d.patch l allowed operations).1

lemma apart_serve (h : d.artifact.Apart own) (request : Request) :
    (d.serve request).artifact.Apart own := by
  cases request with
  | assign l name input => exact apart_assign h l name input
  | patch l allowed operations => exact apart_patch h l allowed operations

lemma apart_run (h : d.artifact.Apart own) (requests : List Request) :
    (requests.foldl serve d).artifact.Apart own := by
  induction requests generalizing d with
  | nil => exact h
  | cons request requests ih => exact ih (apart_serve h request)

/-- All ways to make the artifact depend on itself fail, and leave everything as it is. -/
structure RefusesItself (l : Links) (d : Draft) : Prop where
  assign : ∀ name input, d.artifact.IsDependency name → input.Offers l d.artifact.id →
    ∃ e, d.assign l name input = (d, .error e)
  assignItself : ∀ name input, d.artifact.IsDependency name → input.IsItself d.artifact.id →
    ∃ e, (e = .circular d.artifact.id name ∨ e = .tooDeep l.bound) ∧
      d.assign l name input = (d, .error (.link e))
  patch : ∀ name operation allowed rest, d.artifact.IsDependency name →
    operation.Offers l d.artifact.id name →
    ∃ e, d.patch l allowed (operation :: rest) = (d, .error e)

lemma refusesItself (l : Links) (d : Draft) : d.RefusesItself l := by
  have hassign : ∀ name input, d.artifact.IsDependency name → input.Offers l d.artifact.id →
      ∃ e, d.assign l name input = (d, .error e) := by
    rintro name input ⟨f, hf, hr⟩ ho
    obtain ⟨e, he⟩ := Links.resolve_offered f.definition.kind.isList name ho
    exact ⟨e, by rw [assign_of_dependency hf hr, he]⟩
  refine ⟨hassign, ?_, ?_⟩
  · rintro name input ⟨f, hf, hr⟩ hitself
    obtain ⟨e, hcase, he⟩ := Links.resolve_itself (l := l) f.definition.kind.isList name hitself
    exact ⟨e, hcase, by rw [assign_of_dependency hf hr, he]⟩
  · intro name operation allowed rest hdep ho
    rw [Draft.patch]
    cases operation.checkAllowed allowed with
    | error e => exact ⟨e, rfl⟩
    | ok _ =>
      dsimp only
      rw [applyOperation]
      cases hx : operation.input d.artifact with
      | error e => exact ⟨e, rfl⟩
      | ok x =>
        obtain ⟨hname, hoffers⟩ := Patch.Operation.offers_input hdep ho hx
        obtain ⟨e, he⟩ := hassign x.1 x.2 (hname ▸ hdep) hoffers
        dsimp only
        rw [he]
        exact ⟨e, rfl⟩

theorem run_refuses_itself (d : Draft)
    (hdefaults : ∀ e ∈ d.artifact.fieldsOf .dependency, e.2.definition.default = none)
    (hself : ¬d.artifact.DependsOnItself) (requests : List Request) :
    (requests.foldl serve d).artifact.id = d.artifact.id ∧
      ¬(requests.foldl serve d).artifact.DependsOnItself ∧
      ∀ l, (requests.foldl serve d).RefusesItself l := by
  have hapart : d.artifact.Apart d.artifact.id :=
    ⟨rfl, hdefaults, fun e he t ht hid => hself ⟨e, he, t, ht, hid⟩⟩
  obtain ⟨hid, _, htargets⟩ := apart_run hapart requests
  refine ⟨hid, ?_, fun l => refusesItself l _⟩
  rintro ⟨e, he, t, ht, heq⟩
  exact htargets e he t ht (heq.trans hid)

end Draft

end

namespace Artifact.Sample

open Definition Draft

attribute [local instance] Predicates.parityAndSize ArtifactPredicates.owned

def node : Descriptor where
  name := "Node"
  version := "1.0.0"
  attributes := [("links", .list .relation), ("next", .relation)]

def nodeType : ArtifactType :=
  node.declare.toOption.get rfl

def left : Artifact :=
  blank nodeType "left" ⟨0, 0⟩

def right : Artifact :=
  blank nodeType "right" ⟨0, 0⟩

def network : Links where
  lookup id :=
    if id = "right" then .ok right
    else if id = "alias" then .ok left
    else .error (.store (.notFound id))
  bound := 8

def lone : Draft :=
  ⟨left, {}⟩

def linking : List Request := [
  .patch network Patch.Verb.all [
    ⟨.add, "/links", some (.arr [.str "right"])⟩,
    ⟨.add, "/links/-", some (.str "alias")⟩],
  .assign network "next" (.layered (.wrap 9 (.base left)))]

def linked : Draft :=
  linking.foldl serve lone

theorem run_refuses_itself_left :
    (∀ e ∈ lone.artifact.fieldsOf .dependency, e.2.definition.default = none) ∧
      ¬lone.artifact.DependsOnItself ∧
      linked.artifact.peek "links" = some (.list [.artifact right]) ∧
      ¬linked.artifact.DependsOnItself ∧
      (∃ e, linked.assign network "links" (.references ["right", "alias"]) = (linked, .error e)) ∧
      ∃ e, linked.assign network "next" (.layered (.wrap 9 (.base left))) =
        (linked, .error (.link e)) := by
  have hdefaults : ∀ e ∈ lone.artifact.fieldsOf .dependency, e.2.definition.default = none := by
    intro e he
    rcases List.mem_pair.1 he with rfl | rfl <;> rfl
  have hself : ¬lone.artifact.DependsOnItself := by
    rintro ⟨e, he, t, ht, _⟩
    rcases List.mem_pair.1 he with rfl | rfl <;> cases ht
  obtain ⟨_, hkept, hrefuses⟩ := run_refuses_itself lone hdefaults hself linking
  have hlinks : linked.artifact.IsDependency "links" := ⟨_, rfl, rfl⟩
  have hnext : linked.artifact.IsDependency "next" := ⟨_, rfl, rfl⟩
  have halias : network.LeadsTo linked.artifact.id "alias" := .inr ⟨left, rfl, rfl⟩
  obtain ⟨e, _, he⟩ := (hrefuses network).assignItself "next"
    (.layered (.wrap 9 (.base left))) hnext (.layered rfl)
  exact ⟨hdefaults, hself, rfl, hkept, (hrefuses network).assign "links" _ hlinks
    (.references (List.mem_pair.2 (.inr rfl)) halias), e, he⟩

end Artifact.Sample

end TypedArtifacts
