import TypedArtifacts.Proofs.Artifact.Wrapped
import TypedArtifacts.Proofs.Definition.Acceptance

/-! Checks and canonical variants do not tell apart values with the same settled form. -/

namespace TypedArtifacts

open Artifact

/-- A test of a caller looks at what values show and not at how it came about, at any depth. -/
def Predicates.Respects [Predicates Artifact] (predicate : String) : Prop :=
  ∀ v w : Value Artifact, settledValue v = settledValue w →
    accepts predicate v = accepts predicate w

def Predicates.Respectful [Predicates Artifact] : Prop :=
  ∀ predicate, Respects predicate

lemma size?_settled (v : Value Artifact) : (settledValue v).size? = v.size? := by
  cases v <;> simp [settledValue, Value.size?, settledItems_eq, settledEntries_eq]

lemma integer?_settled (v : Value Artifact) : (settledValue v).integer? = v.integer? := by
  cases v <;> rfl

@[reducible]
def Predicates.parityAndSize : Predicates Artifact where
  accepts predicate v :=
    match predicate with
    | "even" => v.integer?.any fun n => n.toInt % 2 = 0
    | "non_empty" => v.size?.any fun n => 0 < n
    | _ => false

lemma Predicates.respectful_parityAndSize : @Predicates.Respectful .parityAndSize := by
  intro predicate v w h
  have hi : v.integer? = w.integer? := by rw [← integer?_settled v, h, integer?_settled]
  have hs : v.size? = w.size? := by rw [← size?_settled v, h, size?_settled]
  simp only [accepts, hi, hs]

@[reducible]
def ArtifactPredicates.owned : ArtifactPredicates where
  accepts _ a := a.owner.isSome

lemma sameValue_settled (v w : Value Artifact) :
    sameValue (settledValue v) (settledValue w) = sameValue v w :=
  (sameValue_settledValue v (fun t _ b => same_settled t b) w).symm

namespace Limit

lemma hasRepeat_settled (vs : List (Value Artifact)) :
    hasRepeat (vs.map settledValue) = hasRepeat vs := by
  induction vs with
  | nil => rfl
  | cons v vs ih =>
    rw [List.map_cons, hasRepeat, hasRepeat, ih, List.any_map]
    congr 1
    exact congrArg _ (funext fun w => sameValue_settled v w)

lemma violatedBy_settled (l : Limit) (v : Value Artifact) :
    l.violatedBy (settledValue v) = l.violatedBy v := by
  cases v with
  | list vs =>
    cases l <;> simp [violatedBy, settledValue, settledItems_eq, Value.text?, Value.number?,
      Value.list?, Value.dict?, Value.blob?, Value.artifact?, hasRepeat_settled]
  | dict es =>
    cases l <;> simp [violatedBy, settledValue, settledEntries_eq, Value.text?, Value.number?,
      Value.list?, Value.dict?, Value.blob?, Value.artifact?]
  | artifact t =>
    obtain ⟨header, type, fields⟩ := t
    cases l <;> rfl
  | _ => cases l <;> rfl

end Limit

lemma forall₂_settled {vs ws : List (Value Artifact)}
    (h : vs.map settledValue = ws.map settledValue) :
    List.Forall₂ (fun v w => settledValue v = settledValue w) vs ws := by
  rwa [← List.forall₂_eq_eq_eq, List.forall₂_map_left_iff, List.forall₂_map_right_iff] at h

lemma Shape.fits_settled (s : Shape) (v : Value Artifact) :
    s.fits (settledValue v) = s.fits v := by
  cases s <;> cases v <;> rfl

namespace Definition

lemma settledValue_normalizeScalar (s : Scalar) (v : Value Artifact) :
    settledValue (normalizeScalar s v) = normalizeScalar s (settledValue v) := by
  cases s <;> cases v <;> rfl

lemma settledItems_normalizeItems {items : List (Definition Artifact)}
    (h : ∀ d ∈ items, ∀ v, settledValue (d.normalize v) = d.normalize (settledValue v))
    (vs : List (Value Artifact)) :
    (normalizeItems items vs).map settledValue = normalizeItems items (vs.map settledValue) := by
  induction items generalizing vs with
  | nil => rfl
  | cons d ds ih =>
    cases vs with
    | nil => rfl
    | cons v vs =>
      rw [normalizeItems, List.map_cons, List.map_cons, normalizeItems, h d List.mem_cons_self,
        ih fun e he => h e (List.mem_cons_of_mem _ he)]

lemma settledValue_normalizeKey {keys : List (String × Definition Artifact)}
    (h : ∀ d ∈ Dict.values keys, ∀ v, settledValue (d.normalize v) = d.normalize (settledValue v))
    (key : String) (v : Value Artifact) :
    settledValue (normalizeKey keys key v) = normalizeKey keys key (settledValue v) := by
  induction keys with
  | nil => rfl
  | cons e keys ih =>
    rw [normalizeKey, normalizeKey]
    split
    · exact h e.2 List.mem_cons_self v
    · exact ih fun d hd => h d (List.mem_cons_of_mem _ hd)

lemma settledValue_normalize (d : Definition Artifact) (v : Value Artifact) :
    settledValue (d.normalize v) = d.normalize (settledValue v) := by
  induction d using Definition.induction generalizing v with
  | h d ih =>
    obtain ⟨t, kind⟩ := d
    rw [normalize, normalize]
    cases kind with
    | scalar s => exact settledValue_normalizeScalar s v
    | list item =>
      cases v with
      | list vs =>
        have hitem := ih item (List.mem_singleton_self _)
        simp [normalizeKind, settledValue, settledItems_eq, hitem]
      | _ => rfl
    | tuple items =>
      cases v with
      | list vs =>
        simp only [normalizeKind, settledValue, settledItems_eq]
        exact congrArg Value.list (settledItems_normalizeItems ih vs)
      | _ => rfl
    | dict value =>
      cases v with
      | dict es =>
        have hvalue := ih value (List.mem_singleton_self _)
        simp [normalizeKind, settledValue, settledEntries_eq, hvalue]
      | _ => rfl
    | composite keys =>
      cases v with
      | dict es =>
        have hkey := settledValue_normalizeKey ih
        simp [normalizeKind, settledValue, settledEntries_eq, hkey]
      | _ => rfl
    | _ => cases v <;> rfl

end Definition

section

variable [Predicates Artifact]

lemma Rule.violatedBy_agree {r : Rule Artifact}
    (hr : ∀ predicate, r = .custom predicate → Predicates.Respects predicate) {v w : Value Artifact}
    (h : settledValue v = settledValue w) : r.violatedBy v = r.violatedBy w := by
  cases r with
  | shape s => rw [violatedBy, violatedBy, ← s.fits_settled v, h, s.fits_settled]
  | limit l => rw [violatedBy, violatedBy, ← l.violatedBy_settled v, h, l.violatedBy_settled]
  | allowedValues values =>
    have heq : ∀ u, sameValue u v = sameValue u w := fun u => by
      rw [← sameValue_settled u v, h, sameValue_settled]
    have hfun : (fun u => sameValue u v) = fun u => sameValue u w := funext heq
    rw [violatedBy, violatedBy]
    exact congrArg (fun f => !values.any f) hfun
  | custom predicate => rw [violatedBy, violatedBy, hr predicate rfl v w h]

/-- The tests of callers in a definition look at what values show, at any depth. -/
def Definition.Impartial (d : Definition Artifact) : Prop :=
  ∀ p : Definition Artifact, p.Within d → ∀ u ∈ p.validators, ∀ predicate,
    u.rule = .custom predicate → Predicates.Respects predicate

lemma Definition.Impartial.respects {d : Definition Artifact} (h : d.Impartial) :
    d.Respects fun v w => settledValue v = settledValue w :=
  fun p hp u hu _ _ hvw => Rule.violatedBy_agree (h p hp u hu) hvw

/-- Tests on what an artifact refers to look at what it shows. -/
def Artifact.Impartial (a : Artifact) : Prop :=
  ∀ e ∈ a.fieldsOf .dependency, e.2.definition.Impartial

lemma Predicates.Respectful.impartial (hp : Predicates.Respectful) (d : Definition Artifact) :
    d.Impartial :=
  fun _ _ _ _ predicate _ => hp predicate

end

lemma Value.alike_settled : Value.Alike fun v w : Value Artifact => settledValue v = settledValue w where
  list := by
    intro v ws h
    cases v with
    | list vs =>
      have hmap : vs.map settledValue = ws.map settledValue := by
        simpa [settledValue, settledItems_eq] using h
      exact ⟨vs, rfl, forall₂_settled hmap⟩
    | _ => simp [settledValue] at h
  dict := by
    intro v fs h
    cases v with
    | dict es =>
      have hmap : (es.map fun e => (e.1, settledValue e.2)) =
          fs.map fun e => (e.1, settledValue e.2) := by
        simpa [settledValue, settledEntries_eq] using h
      refine ⟨es, rfl, ?_⟩
      rw [← List.forall₂_eq_eq_eq, List.forall₂_map_left_iff, List.forall₂_map_right_iff] at hmap
      exact hmap.imp fun _ _ he => Prod.mk.inj he
    | _ => simp [settledValue] at h

end TypedArtifacts
