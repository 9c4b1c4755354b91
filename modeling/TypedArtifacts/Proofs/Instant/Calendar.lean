import Mathlib.Tactic
import TypedArtifacts.Instant

namespace TypedArtifacts.Date

lemma foldl_add (ns : List ℕ) (n : ℕ) : ns.foldl (· + ·) n = n + ns.foldl (· + ·) 0 := by
  induction ns generalizing n with
  | nil => simp
  | cons m ns ih => rw [List.foldl_cons, List.foldl_cons, ih, ih (0 + m)]; omega

lemma monthAndDay_spec (lengths : List ℕ) (month days : ℕ) (h : days < lengths.foldl (· + ·) 0) :
    ∃ i d, monthAndDay month days lengths = (month + i, d + 1) ∧
      days = (lengths.take i).foldl (· + ·) 0 + d ∧ lengths[i]?.any (d + 1 ≤ ·) = true := by
  induction lengths generalizing month days with
  | nil => simp at h
  | cons n rest ih =>
    rw [List.foldl_cons, foldl_add] at h
    by_cases hd : days < n
    · exact ⟨0, days, by simp [monthAndDay, hd], by simp, by simpa using hd⟩
    · obtain ⟨i, d, he, hs, hv⟩ := ih (month + 1) (days - n) (by omega)
      refine ⟨i + 1, d, ?_, ?_, by simpa using hv⟩
      · rw [monthAndDay, if_neg hd, he]
        congr 1
        omega
      · rw [List.take_succ_cons, List.foldl_cons, foldl_add]
        omega

lemma isLeap_eq (year : ℤ) :
    isLeap year = true ↔ year % 4 = 0 ∧ (year % 100 ≠ 0 ∨ year % 400 = 0) := by
  simp [isLeap]

lemma daysBeforeYear_succ (year : ℤ) :
    daysBeforeYear (year + 1) - daysBeforeYear year =
      ((monthLengths year).foldl (· + ·) 0 : ℕ) := by
  by_cases h : isLeap year = true
  · have hs : (monthLengths year).foldl (· + ·) 0 = 366 := by simp [monthLengths, h]
    rw [hs]
    rw [isLeap_eq] at h
    unfold daysBeforeYear
    omega
  · have hs : (monthLengths year).foldl (· + ·) 0 = 365 := by simp [monthLengths, h]
    rw [hs]
    rw [isLeap_eq] at h
    unfold daysBeforeYear
    omega

lemma ofDays_spec (days : ℤ) :
    (ofDays days).valid = true ∧ (ofDays days).toDays = days ∧
      (ofDays days).month ≤ 12 ∧ (ofDays days).day ≤ 31 := by
  have hyear : (ofDays days).year = yearOf (days + epochDays) := rfl
  obtain ⟨hlo, hhi⟩ := daysBeforeYear_yearOf (days + epochDays)
  have hlen := daysBeforeYear_succ (yearOf (days + epochDays))
  obtain ⟨i, d, he, hs, hv⟩ := monthAndDay_spec (monthLengths (yearOf (days + epochDays))) 1
    (days + epochDays - daysBeforeYear (yearOf (days + epochDays))).toNat (by omega)
  have hmonth : (ofDays days).month = i + 1 := by
    simp only [ofDays, he]
    omega
  have hday : (ofDays days).day = d + 1 := by simp only [ofDays, he]
  have hi : i < 12 := by
    by_contra hn
    rw [List.getElem?_eq_none (by simp [monthLengths]; omega)] at hv
    simp at hv
  have hd : d + 1 ≤ 31 := by
    cases hl : (monthLengths (yearOf (days + epochDays)))[i]? with
    | none => simp [hl] at hv
    | some n =>
      have hm : n ∈ monthLengths (yearOf (days + epochDays)) := List.mem_of_getElem? hl
      have hn : n ≤ 31 := by
        simp only [monthLengths, List.mem_cons, List.not_mem_nil, or_false] at hm
        split at hm <;> omega
      simp only [hl, Option.any_some, decide_eq_true_eq] at hv
      omega
  refine ⟨?_, ?_, by omega, by omega⟩
  · simp only [valid, hyear, hmonth, hday, Nat.add_sub_cancel, hv, Bool.and_true,
      Bool.and_eq_true, decide_eq_true_eq]
    omega
  · rw [toDays, hyear, hmonth, hday, daysBeforeMonth, Nat.add_sub_cancel, Nat.add_sub_cancel]
    omega

end TypedArtifacts.Date
