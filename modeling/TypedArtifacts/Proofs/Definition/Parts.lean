import TypedArtifacts.Proofs.Definition.Canonical
import TypedArtifacts.Proofs.Definition.Conforming

namespace TypedArtifacts

namespace Dict

variable {α β : Type}

lemma map_insert (f : String → α → β) (key : String) (v : α) (d : List (String × α)) :
    ((insert key v d).map fun e => (e.1, f e.1 e.2)) =
      insert key (f key v) (d.map fun e => (e.1, f e.1 e.2)) := by
  induction d with
  | nil => rfl
  | cons e d ih =>
    rw [insert, List.map_cons, insert]
    split
    · rfl
    · split
      · rfl
      · rw [List.map_cons, ih]

lemma map_erase (f : String → α → β) (key : String) (d : List (String × α)) :
    ((erase key d).map fun e => (e.1, f e.1 e.2)) = erase key (d.map fun e => (e.1, f e.1 e.2)) := by
  rw [erase, erase, List.filter_map]
  rfl

end Dict

namespace Definition

variable {ρ : Type} {d p : Definition ρ}

def normalizeAt (d : Definition ρ) (i : ℕ) (v : Value ρ) : Value ρ :=
  ((d.itemAt? i).map (·.normalize v)).getD v

def normalizeUnder (d : Definition ρ) (key : String) (v : Value ρ) : Value ρ :=
  ((d.valueAt? key).map (·.normalize v)).getD v

lemma normalizeAt_eq {i : ℕ} (h : d.itemAt? i = some p) (v : Value ρ) :
    d.normalizeAt i v = p.normalize v := by
  simp [normalizeAt, h]

lemma normalizeUnder_eq {key : String} (h : d.valueAt? key = some p) (v : Value ρ) :
    d.normalizeUnder key v = p.normalize v := by
  simp [normalizeUnder, h]

lemma isList_of_itemAt {i : ℕ} (h : d.itemAt? i = some p) : d.kind.isList = true := by
  unfold itemAt? at h
  split at h <;> simp_all [Kind.isList]

lemma isDict_of_valueAt {key : String} (h : d.valueAt? key = some p) : d.kind.isDict = true := by
  unfold valueAt? at h
  split at h <;> simp_all [Kind.isDict]

lemma normalizeItems_mapIdx (items : List (Definition ρ)) (vs : List (Value ρ)) :
    normalizeItems items vs = vs.mapIdx fun i v => ((items[i]?).map (·.normalize v)).getD v := by
  induction items generalizing vs with
  | nil =>
    refine (List.mapIdx_eq_iff.2 fun i => ?_).symm
    simp [normalizeItems]
  | cons d ds ih =>
    cases vs with
    | nil => rfl
    | cons v vs =>
      rw [normalizeItems, List.mapIdx_cons, ih]
      simp

lemma normalizeKey_eq (keys : List (String × Definition ρ)) (key : String) (v : Value ρ) :
    normalizeKey keys key v = ((keys.lookup key).map (·.normalize v)).getD v := by
  induction keys with
  | nil => rfl
  | cons e keys ih =>
    obtain ⟨k, d⟩ := e
    rw [normalizeKey]
    by_cases hk : key = k
    · simp [hk]
    · rw [if_neg hk, ih, List.lookup_cons, beq_false_of_ne hk]

lemma normalize_list (h : d.kind.isList = true) (vs : List (Value ρ)) :
    d.normalize (.list vs) = .list (vs.mapIdx d.normalizeAt) := by
  obtain ⟨t, kind⟩ := d
  cases kind with
  | list item =>
    have hmap : vs.map item.normalize = vs.mapIdx (normalizeAt ⟨t, .list item⟩) := by
      refine (List.mapIdx_eq_iff.2 fun i => ?_).symm
      rw [List.getElem?_map]
      rfl
    rw [normalize, normalizeKind, hmap]
  | tuple items =>
    rw [normalize, normalizeKind, normalizeItems_mapIdx]
    rfl
  | _ => cases h

lemma normalize_dict (h : d.kind.isDict = true) (es : List (String × Value ρ)) :
    d.normalize (.dict es) = .dict (es.map fun e => (e.1, d.normalizeUnder e.1 e.2)) := by
  obtain ⟨t, kind⟩ := d
  cases kind with
  | dict value => rfl
  | composite keys =>
    rw [normalize, normalizeKind]
    refine congrArg Value.dict (List.map_congr_left fun e _ => ?_)
    rw [normalizeKey_eq]
    rfl
  | _ => cases h

lemma normalize_set {i : ℕ} (h : d.itemAt? i = some p) (vs : List (Value ρ)) (v : Value ρ) :
    d.normalize (.list (vs.set i v)) = .list ((vs.mapIdx d.normalizeAt).set i (p.normalize v)) := by
  rw [normalize_list (isList_of_itemAt h), List.mapIdx_set, normalizeAt_eq h]

lemma normalize_insert {key : String} (h : d.valueAt? key = some p) (es : List (String × Value ρ))
    (v : Value ρ) : d.normalize (.dict (Dict.insert key v es)) =
      .dict (Dict.insert key (p.normalize v)
        (es.map fun e => (e.1, d.normalizeUnder e.1 e.2))) := by
  rw [normalize_dict (isDict_of_valueAt h), Dict.map_insert, normalizeUnder_eq h]

lemma normalize_erase (h : d.kind.isDict = true) (key : String) (es : List (String × Value ρ)) :
    d.normalize (.dict (Dict.erase key es)) =
      .dict (Dict.erase key (es.map fun e => (e.1, d.normalizeUnder e.1 e.2))) := by
  rw [normalize_dict h, Dict.map_erase]

end Definition

end TypedArtifacts
