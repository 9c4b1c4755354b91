import TypedArtifacts.Proofs.Bag.Cuts

namespace TypedArtifacts

variable {ρ : Type}

open Definition

namespace Group

def deeperAt (key : String) (placed : List Placed) : List (String × BagValue) :=
  placed.filterMap fun p => if p.key = key then p.deeper.map fun rest => (rest, p.value) else none

def ownAt (key : String) (placed : List Placed) : List BagValue :=
  placed.filterMap fun p => if p.key = key ∧ p.deeper = none then some p.value else none

def markedAt (key : String) (placed : List Placed) : Bool :=
  (ownAt key placed).any (·.type = .dict)

lemma getD_addLeaf (key k : String) (leaf : String × BagValue) (groups : List (String × Group)) :
    ((addLeaf k leaf groups).lookup key).getD {} =
      ⟨((groups.lookup key).getD {}).marked,
        ((groups.lookup key).getD {}).leaves ++ if k = key then [leaf] else []⟩ := by
  rw [addLeaf, Dict.lookup_insert]
  by_cases h : key = k
  · subst h
    simp
  · rw [if_neg h, if_neg (Ne.symm h), List.append_nil]

lemma getD_mark (key k : String) (groups : List (String × Group)) :
    ((mark k groups).lookup key).getD {} =
      ⟨((groups.lookup key).getD {}).marked || decide (k = key),
        ((groups.lookup key).getD {}).leaves⟩ := by
  rw [mark, Dict.lookup_insert]
  by_cases h : key = k
  · subst h
    simp
  · simp [h, Ne.symm h]

lemma getD_nested (key : String) (placed : List Placed) (groups : List (String × Group)) :
    ((nested placed groups).lookup key).getD {} =
      ⟨((groups.lookup key).getD {}).marked || markedAt key placed,
        ((groups.lookup key).getD {}).leaves ++ deeperAt key placed⟩ := by
  induction placed generalizing groups with
  | nil => simp [nested, markedAt, ownAt, deeperAt]
  | cons p placed ih =>
    obtain ⟨k, deeper, v⟩ := p
    cases deeper with
    | some rest =>
      rw [nested, ih, getD_addLeaf]
      by_cases h : k = key <;> simp [markedAt, ownAt, deeperAt, h]
    | none =>
      rw [nested, ih]
      by_cases ht : v.type = .dict
      · rw [if_pos ht, getD_mark]
        by_cases h : k = key <;> simp [markedAt, ownAt, deeperAt, h, ht]
      · rw [if_neg ht]
        by_cases h : k = key <;> simp [markedAt, ownAt, deeperAt, h, ht]

lemma sorted_nested (placed : List Placed) {groups : List (String × Group)}
    (h : Dict.Sorted groups) : Dict.Sorted (nested placed groups) := by
  induction placed generalizing groups with
  | nil => exact h
  | cons p placed ih =>
    obtain ⟨k, deeper, v⟩ := p
    cases deeper with
    | some rest => exact ih (h.insert _ _)
    | none =>
      rw [nested]
      split
      · exact ih (h.insert _ _)
      · exact ih h

end Group

def Json.nonNull? (j : Json) : Option Json :=
  if j.isNull then none else some j

namespace Group

lemma present_eq (key : String) (j : Json) :
    present key j = (j.nonNull?.map fun j => (key, j)).toList := by
  cases j <;> rfl

def fieldOf (v : BagValue) : Option Json :=
  if v.type = .dict then none else (v.value.nonNull?).map (BagValue.plain (some v.type))

lemma direct_eq (placed : List Placed) :
    direct placed = placed.filterMap fun p =>
      if p.deeper = none then (fieldOf p.value).map fun j => (p.key, j) else none := by
  induction placed with
  | nil => rfl
  | cons p placed ih =>
    obtain ⟨k, deeper, v⟩ := p
    cases deeper with
    | some rest => simp [direct, ih]
    | none =>
      by_cases ht : v.type = .dict <;> by_cases hn : v.value.isNull = true <;>
        simp [direct, ih, fieldOf, Json.nonNull?, ht, hn]

end Group

namespace Leaves

open TypedArtifacts.Group

lemma ownAt_placedAt (key k : String) (l : Leaves) :
    ownAt key (l.placedAt k) = if k = key then l.own.toList else [] := by
  have hd : ownAt key (l.dotted.map fun e => (⟨k, some e.1, e.2⟩ : Placed)) = [] := by
    simp [ownAt, List.filterMap_map]
  rw [placedAt]
  rw [ownAt] at hd ⊢
  rw [List.filterMap_append, hd]
  cases l.own <;> by_cases h : k = key <;> simp [h]

lemma deeperAt_placedAt (key k : String) (l : Leaves) :
    deeperAt key (l.placedAt k) = if k = key then l.dotted else [] := by
  rw [placedAt, deeperAt, List.filterMap_append, List.filterMap_map, List.filterMap_map]
  by_cases h : k = key <;> cases l.own <;> simp [h]

lemma direct_placedAt (k : String) (l : Leaves) :
    direct (l.placedAt k) = ((l.own.bind fieldOf).map fun j => (k, j)).toList := by
  rw [placedAt, direct_eq, List.filterMap_append, List.filterMap_map, List.filterMap_map]
  cases l.own with
  | none => simp
  | some v => cases hf : fieldOf v <;> simp [hf]

def partAt (key : String) (parts : List (String × Leaves)) : Leaves :=
  (parts.lookup key).getD {}

lemma flatMap_partAt {α : Type} {parts : List (String × Leaves)} (hn : (Dict.keys parts).Nodup)
    (key : String) (f : Leaves → List α) (h : f {} = []) :
    (parts.flatMap fun e => if e.1 = key then f e.2 else []) = f (partAt key parts) := by
  rw [Dict.flatMap_lookup (fun _ l => f l) hn, partAt]
  cases parts.lookup key with
  | none => exact h.symm
  | some l => rfl

section

variable {cut : String → String × Option String} {parts : List (String × Leaves)}
  {ls : List (String × BagValue)}

lemma placeLeaves_perm (h : Cuts cut parts) (hp : ls.Perm (join parts)) :
    (placeLeaves cut ls).Perm (parts.flatMap fun e => e.2.placedAt e.1) :=
  (hp.map _).trans (List.Perm.of_eq (placeLeaves_join h))

lemma ownAt_perm (h : Cuts cut parts) (hn : (Dict.keys parts).Nodup) (hp : ls.Perm (join parts))
    (key : String) : ownAt key (placeLeaves cut ls) = (partAt key parts).own.toList := by
  have hperm : (ownAt key (placeLeaves cut ls)).Perm (partAt key parts).own.toList := by
    have hf := (placeLeaves_perm h hp).filterMap
      fun p => if p.key = key ∧ p.deeper = none then some p.value else none
    rw [List.filterMap_flatMap] at hf
    have hc : (parts.flatMap fun e => ownAt key (e.2.placedAt e.1)) =
        (partAt key parts).own.toList := by
      simp only [ownAt_placedAt]
      exact flatMap_partAt hn key (fun l => l.own.toList) rfl
    exact hf.trans (List.Perm.of_eq hc)
  cases ho : (partAt key parts).own with
  | none => simpa [ho] using hperm
  | some v => simpa [ho] using hperm

lemma deeperAt_perm (h : Cuts cut parts) (hn : (Dict.keys parts).Nodup) (hp : ls.Perm (join parts))
    (key : String) : (deeperAt key (placeLeaves cut ls)).Perm (partAt key parts).dotted := by
  have hf := (placeLeaves_perm h hp).filterMap
    fun p => if p.key = key then p.deeper.map fun rest => (rest, p.value) else none
  rw [List.filterMap_flatMap] at hf
  have hc : (parts.flatMap fun e => deeperAt key (e.2.placedAt e.1)) =
      (partAt key parts).dotted := by
    simp only [deeperAt_placedAt]
    exact flatMap_partAt hn key (fun l => l.dotted) rfl
  exact hf.trans (List.Perm.of_eq hc)

lemma direct_perm (h : Cuts cut parts) (hp : ls.Perm (join parts)) :
    (direct (placeLeaves cut ls)).Perm
      (parts.filterMap fun e => (e.2.own.bind fieldOf).map fun j => (e.1, j)) := by
  have hf := (placeLeaves_perm h hp).filterMap
    fun p => if p.deeper = none then (fieldOf p.value).map fun j => (p.key, j) else none
  rw [List.filterMap_flatMap, ← direct_eq] at hf
  refine hf.trans (List.Perm.of_eq ?_)
  rw [List.filterMap_eq_flatMap_toList]
  apply List.flatMap_congr
  intro e _
  rw [← direct_placedAt, direct_eq]

end

end Leaves

end TypedArtifacts
