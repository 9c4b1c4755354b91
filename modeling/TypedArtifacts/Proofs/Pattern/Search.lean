import Mathlib.Tactic
import TypedArtifacts.Pattern.Tree

/-! What a regular expression matches, and that the search by partial derivatives finds a match
wherever there is one. -/

namespace TypedArtifacts.Pattern

def behind (before : Option Char) (cs : List Char) : Option Char :=
  cs.foldl (fun _ c => some c) before

@[simp] lemma behind_nil (before : Option Char) : behind before [] = before := rfl

@[simp] lemma behind_cons (before : Option Char) (c : Char) (cs : List Char) :
    behind before (c :: cs) = behind (some c) cs := rfl

@[simp] lemma behind_append (before : Option Char) (cs ds : List Char) :
    behind before (cs ++ ds) = behind (behind before cs) ds :=
  List.foldl_append

lemma behind_none {cs : List Char} : behind none cs = none ↔ cs = [] := by
  have hsome : ∀ c (cs : List Char), behind (some c) cs ≠ none := by
    intro c cs
    induction cs generalizing c with
    | nil => exact nofun
    | cons d cs ih => exact ih d
  cases cs with
  | nil => simp
  | cons c cs => simpa using hsome c cs

namespace Tree

inductive Matches : Tree → Option Char → List Char → List Char → Prop
  | empty {before after} : Matches empty before [] after
  | assertion {a before after} : a.holds before after.head? = true →
      Matches (assertion a) before [] after
  | set {s c before after} : s.has c = true → Matches (set s) before [c] after
  | seq {t u before cs ds after} : Matches t before cs (ds ++ after) →
      Matches u (behind before cs) ds after → Matches (seq t u) before (cs ++ ds) after
  | left {t u before cs after} : Matches t before cs after → Matches (alt t u) before cs after
  | right {t u before cs after} : Matches u before cs after → Matches (alt t u) before cs after
  | done {t before after} : Matches (star t) before [] after
  | more {t before cs ds after} : Matches t before cs (ds ++ after) →
      Matches (star t) (behind before cs) ds after → Matches (star t) before (cs ++ ds) after

variable {t u : Tree} {before : Option Char} {c : Char} {cs ds after : List Char}

lemma matches_empty : Matches empty before cs after ↔ cs = [] := by
  constructor
  · rintro ⟨⟩
    rfl
  · rintro rfl
    exact .empty

lemma matches_assertion {a : Assertion} :
    Matches (assertion a) before cs after ↔ cs = [] ∧ a.holds before after.head? = true := by
  constructor
  · rintro ⟨⟩
    exact ⟨rfl, ‹_›⟩
  · rintro ⟨rfl, h⟩
    exact .assertion h

lemma matches_set {s : CharSet} :
    Matches (set s) before cs after ↔ ∃ c, cs = [c] ∧ s.has c = true := by
  constructor
  · rintro ⟨⟩
    exact ⟨_, rfl, ‹_›⟩
  · rintro ⟨c, rfl, h⟩
    exact .set h

lemma matches_seq : Matches (seq t u) before cs after ↔ ∃ xs ys, cs = xs ++ ys ∧
    Matches t before xs (ys ++ after) ∧ Matches u (behind before xs) ys after := by
  constructor
  · rintro ⟨⟩
    exact ⟨_, _, rfl, ‹_›, ‹_›⟩
  · rintro ⟨xs, ys, rfl, ht, hu⟩
    exact .seq ht hu

lemma matches_alt :
    Matches (alt t u) before cs after ↔ Matches t before cs after ∨ Matches u before cs after := by
  constructor
  · intro h
    cases h with
    | left h => exact Or.inl h
    | right h => exact Or.inr h
  · rintro (h | h)
    · exact .left h
    · exact .right h

lemma matches_andThen : Matches (t.andThen u) before cs after ↔ Matches (seq t u) before cs after := by
  cases t with
  | empty => simp [andThen, matches_seq, matches_empty]
  | _ => exact Iff.rfl

lemma nullable_iff (after : List Char) :
    t.nullable before after.head? = true ↔ Matches t before [] after := by
  induction t generalizing after with
  | empty => exact iff_of_true rfl .empty
  | assertion a => simp [nullable, matches_assertion]
  | set s => simp [nullable, matches_set]
  | seq t u iht ihu => simp [nullable, matches_seq, iht, ihu]
  | alt t u iht ihu => simp [nullable, matches_alt, iht, ihu]
  | star t ih => exact iff_of_true rfl .done

lemma star_cons (h : Matches (star t) before (c :: cs) after) : ∃ xs ys, cs = xs ++ ys ∧
    Matches t before (c :: xs) (ys ++ after) ∧ Matches (star t) (behind (some c) xs) ys after := by
  generalize hs : star t = s at h
  generalize hw : c :: cs = w at h
  induction h with
  | done => cases hw
  | @more t' before xs ys after ht hrest _ ih =>
    obtain rfl := Tree.star.inj hs
    cases xs with
    | nil => exact ih rfl hw
    | cons d xs =>
      obtain ⟨rfl, rfl⟩ := List.cons.inj hw
      exact ⟨xs, ys, rfl, ht, hrest⟩
  | _ => cases hs

lemma matches_cons : Matches t before (c :: cs) after ↔
    ∃ v ∈ t.partials before c, Matches v (some c) cs after := by
  induction t generalizing before c cs after with
  | empty => simp [partials, matches_empty]
  | assertion a => simp [partials, matches_assertion]
  | set s =>
    by_cases h : s.has c = true
    · simp [partials, matches_set, matches_empty, h]
    · simp [partials, matches_set, h]
  | seq t u iht ihu =>
    simp only [partials, List.mem_append, List.mem_map, or_and_right, exists_or]
    rw [matches_seq]
    constructor
    · rintro ⟨xs, ys, hcs, ht, hu⟩
      cases xs with
      | nil =>
        obtain rfl : c :: cs = ys := hcs
        obtain ⟨v, hv, hmatch⟩ := ihu.1 hu
        have hnull : t.nullable before (some c) = true := (nullable_iff (c :: cs ++ after)).2 ht
        exact Or.inr ⟨v, by rwa [if_pos hnull], hmatch⟩
      | cons d xs =>
        obtain ⟨rfl, rfl⟩ := List.cons.inj hcs
        obtain ⟨v, hv, hmatch⟩ := iht.1 ht
        exact Or.inl ⟨v.andThen u, ⟨v, hv, rfl⟩, matches_andThen.2 (.seq hmatch hu)⟩
    · rintro (⟨_, ⟨v, hv, rfl⟩, hmatch⟩ | ⟨v, hv, hmatch⟩)
      · obtain ⟨xs, ys, rfl, hx, hy⟩ := matches_seq.1 (matches_andThen.1 hmatch)
        exact ⟨c :: xs, ys, rfl, iht.2 ⟨v, hv, hx⟩, hy⟩
      · split at hv
        · rename_i hnull
          exact ⟨[], c :: cs, rfl, (nullable_iff (c :: cs ++ after)).1 hnull, ihu.2 ⟨v, hv, hmatch⟩⟩
        · cases hv
  | alt t u iht ihu =>
    simp only [partials, List.mem_append, or_and_right, exists_or, matches_alt, iht, ihu]
  | star t ih =>
    simp only [partials, List.mem_map]
    constructor
    · intro h
      obtain ⟨xs, ys, rfl, ht, hrest⟩ := star_cons h
      obtain ⟨v, hv, hmatch⟩ := ih.1 ht
      exact ⟨v.andThen (star t), ⟨v, hv, rfl⟩, matches_andThen.2 (.seq hmatch hrest)⟩
    · rintro ⟨_, ⟨v, hv, rfl⟩, hmatch⟩
      obtain ⟨xs, ys, rfl, hx, hy⟩ := matches_seq.1 (matches_andThen.1 hmatch)
      exact .more (ih.2 ⟨v, hv, hx⟩) hy

def Begins (t : Tree) (before : Option Char) (cs : List Char) : Prop :=
  ∃ xs ys, cs = xs ++ ys ∧ Matches t before xs ys

def Occurs (t : Tree) (before : Option Char) (cs : List Char) : Prop :=
  ∃ ws xs, cs = ws ++ xs ∧ Begins t (behind before ws) xs

lemma begins_nil : Begins t before [] ↔ t.nullable before none = true := by
  have hnull : t.nullable before none = true ↔ Matches t before [] [] := nullable_iff []
  rw [hnull]
  constructor
  · rintro ⟨xs, ys, hcs, h⟩
    obtain ⟨rfl, rfl⟩ := List.append_eq_nil_iff.1 hcs.symm
    exact h
  · exact fun h => ⟨[], [], rfl, h⟩

lemma begins_cons : Begins t before (c :: cs) ↔
    t.nullable before (some c) = true ∨ ∃ v ∈ t.partials before c, Begins v (some c) cs := by
  have hnull : t.nullable before (some c) = true ↔ Matches t before [] (c :: cs) :=
    nullable_iff (c :: cs)
  constructor
  · rintro ⟨xs, ys, hcs, h⟩
    cases xs with
    | nil =>
      obtain rfl : c :: cs = ys := hcs
      exact Or.inl (hnull.2 h)
    | cons d xs =>
      obtain ⟨rfl, rfl⟩ := List.cons.inj hcs
      obtain ⟨v, hv, hmatch⟩ := matches_cons.1 h
      exact Or.inr ⟨v, hv, xs, ys, rfl, hmatch⟩
  · rintro (h | ⟨v, hv, xs, ys, rfl, hmatch⟩)
    · exact ⟨[], c :: cs, rfl, hnull.1 h⟩
    · exact ⟨c :: xs, ys, rfl, matches_cons.2 ⟨v, hv, hmatch⟩⟩

lemma occurs_nil : Occurs t before [] ↔ Begins t before [] := by
  constructor
  · rintro ⟨ws, xs, hcs, h⟩
    obtain ⟨rfl, rfl⟩ := List.append_eq_nil_iff.1 hcs.symm
    exact h
  · exact fun h => ⟨[], [], rfl, h⟩

lemma occurs_cons :
    Occurs t before (c :: cs) ↔ Begins t before (c :: cs) ∨ Occurs t (some c) cs := by
  constructor
  · rintro ⟨ws, xs, hcs, h⟩
    cases ws with
    | nil =>
      obtain rfl : c :: cs = xs := hcs
      exact Or.inl h
    | cons d ws =>
      obtain ⟨rfl, rfl⟩ := List.cons.inj hcs
      exact Or.inr ⟨ws, xs, rfl, h⟩
  · rintro (h | ⟨ws, xs, rfl, h⟩)
    · exact ⟨[], c :: cs, rfl, h⟩
    · exact ⟨c :: ws, xs, rfl, h⟩

lemma search_iff {states : List Tree} : search t states before cs = true ↔
    (∃ v ∈ states, Begins v before cs) ∨ Occurs t before cs := by
  induction cs generalizing states before with
  | nil => simp [search, occurs_nil, begins_nil, or_comm]
  | cons c cs ih =>
    have hnow : (∃ v ∈ t :: states, Begins v before (c :: cs)) ↔
        (∃ v ∈ t :: states, v.nullable before (some c) = true) ∨
          ∃ w, (∃ v ∈ t :: states, w ∈ v.partials before c) ∧ Begins w (some c) cs := by
      simp only [begins_cons, and_or_left, exists_or]
      refine or_congr_right ⟨?_, ?_⟩
      · rintro ⟨v, hv, w, hw, h⟩
        exact ⟨w, ⟨v, hv, hw⟩, h⟩
      · rintro ⟨w, ⟨v, hv, hw⟩, h⟩
        exact ⟨v, hv, w, hw, h⟩
    have hstep : search t states before (c :: cs) = true ↔
        (∃ v ∈ t :: states, Begins v before (c :: cs)) ∨ Occurs t (some c) cs := by
      simp only [search, Bool.or_eq_true, ih, List.any_eq_true, List.mem_eraseDups,
        List.mem_flatMap, hnow, or_assoc]
    rw [hstep, occurs_cons, List.exists_mem_cons_iff, or_left_comm, or_assoc]

theorem occursIn_iff : t.occursIn cs = true ↔ Occurs t none cs := by
  rw [occursIn, search_iff]
  simp

end Tree

end TypedArtifacts.Pattern
