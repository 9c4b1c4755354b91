import TypedArtifacts.Proofs.Instant.Micros
import TypedArtifacts.Proofs.Outcome

/-! Reading back instants that are written with all the fraction digits they need. -/

namespace TypedArtifacts.Instant

open Outcome (bind_of_eq_some)

structure InRange (t : Instant) : Prop where
  valid : t.Valid
  le_year : -262143 ≤ (Date.ofDays (t.seconds / daySeconds)).year
  year_le : (Date.ofDays (t.seconds / daySeconds)).year ≤ 262142

lemma isBlank_of_isDigit {c : Char} (h : c.isDigit = true) : Text.isBlank c = false := by
  have hc : 48 ≤ c.toNat ∧ c.toNat ≤ 57 := by
    simpa [Char.isDigit, UInt32.le_iff_toNat_le] using h
  rw [Bool.eq_false_iff]
  intro hblank
  simp only [Text.isBlank, Text.inRanges, Text.blankRanges, List.any_cons, List.any_nil,
    Bool.or_eq_true, Bool.and_eq_true, decide_eq_true_eq, Bool.false_eq_true, or_false] at hblank
  omega

section

variable {ds rest : List Char}

lemma skipBlanks_digits (hne : ds ≠ []) (hd : ∀ c ∈ ds, c.isDigit = true) :
    skipBlanks (ds ++ rest) = ds ++ rest := by
  obtain ⟨c, cs, rfl⟩ := List.exists_cons_of_ne_nil hne
  rw [skipBlanks, List.cons_append,
    List.dropWhile_cons_of_neg (by simp [isBlank_of_isDigit (hd c List.mem_cons_self)])]

lemma readNumber?_digits {most : ℕ} (hne : ds ≠ []) (hd : ∀ c ∈ ds, c.isDigit = true)
    (hle : ds.length ≤ most) (hend : ∀ c ∈ (rest.take (most - ds.length)).head?, c.isDigit = false) :
    readNumber? most (ds ++ rest) = some (Text.numeral ds, rest) := by
  have hstop : (rest.take (most - ds.length)).takeWhile Char.isDigit = [] := by
    cases hr : rest.take (most - ds.length) with
    | nil => rfl
    | cons c cs => simp [hend c (by simp [hr])]
  have hdigits : ((ds ++ rest).take most).takeWhile Char.isDigit = ds := by
    rw [List.take_append, List.take_of_length_le hle, List.takeWhile_append_of_pos hd, hstop,
      List.append_nil]
  have hempty : ds.isEmpty = false := by simpa using hne
  simp only [readNumber?, skipBlanks_digits hne hd, hdigits, hempty, Bool.false_eq_true, if_false,
    List.drop_left]

end

lemma padded_ne_nil (w n : ℕ) : padded w n ≠ [] := by
  simp [padded, Nat.toDigits_ne_nil]

lemma readNumber?_padded {w n : ℕ} (hw : 0 < w) (h : n < 10 ^ w) (rest : List Char) :
    readNumber? w (padded w n ++ rest) = some (n, rest) := by
  rw [readNumber?_digits (padded_ne_nil w n) (fun c hc => isDigit_padded hc)
    (length_padded hw h).le (by simp [length_padded hw h]), numeral_padded]

lemma readNumber?_signed (w n : ℕ) (rest : List Char) :
    readNumber? (padded w n ++ '-' :: rest).length (padded w n ++ '-' :: rest) =
      some (n, '-' :: rest) := by
  rw [readNumber?_digits (padded_ne_nil w n) (fun c hc => isDigit_padded hc) (by simp) (by simp),
    numeral_padded]

lemma isDigit_head_padded (w n : ℕ) (rest : List Char) :
    (padded w n ++ rest).head?.any Char.isDigit = true := by
  obtain ⟨c, cs, hp⟩ := List.exists_cons_of_ne_nil (padded_ne_nil w n)
  simpa [hp] using isDigit_padded (w := w) (n := n) (c := c) (by simp [hp])

lemma readYear?_unsigned {n : ℕ} (h : n < 10000) (rest : List Char) :
    readYear? (padded 4 n ++ rest) = some ((n : ℤ), rest) := by
  have hnumber : readNumber? 4 (padded 4 n ++ rest) = some (n, rest) :=
    readNumber?_padded (by decide) h rest
  have hdigit := isDigit_head_padded 4 n rest
  rw [readYear?, skipBlanks_digits (padded_ne_nil 4 n) fun c hc => isDigit_padded hc]
  split
  · rename_i heq
    rw [heq] at hdigit
    exact absurd hdigit Bool.false_ne_true
  · rename_i heq
    rw [heq] at hdigit
    exact absurd hdigit Bool.false_ne_true
  · rw [hnumber]
    rfl

lemma readYear?_yearText (year : ℤ) (rest : List Char) :
    readYear? (yearText year ++ '-' :: rest) = some (year, '-' :: rest) := by
  rw [yearText]
  split_ifs with hfour hneg
  · have hlt : year.toNat < 10000 := by omega
    rw [readYear?_unsigned hlt, Int.toNat_of_nonneg hfour.1]
  · have hskip (cs : List Char) : skipBlanks ('-' :: cs) = '-' :: cs := rfl
    simp only [readYear?, List.cons_append, hskip, readNumber?_signed, Option.bind_some,
      isDigit_head_padded, if_true, Option.some.injEq, Prod.mk.injEq, and_true]
    omega
  · have hskip (cs : List Char) : skipBlanks ('+' :: cs) = '+' :: cs := rfl
    simp only [readYear?, List.cons_append, hskip, readNumber?_signed, Option.bind_some,
      isDigit_head_padded, if_true, Option.some.injEq, Prod.mk.injEq, and_true]
    omega

lemma readFraction?_fractionText {n : ℕ} (h : n < 10 ^ 9) :
    readFraction? (fractionText n ++ ['Z']) = some (n, ['Z']) := by
  rw [fractionText]
  split_ifs with hzero hmilli hmicro
  · rw [hzero]
    rfl
  · rw [readFraction?_padded (by decide) (by decide) (by omega), Option.some.injEq, Prod.mk.injEq]
    exact ⟨show n / 1000000 * 1000000 = n by omega, rfl⟩
  · rw [readFraction?_padded (by decide) (by decide) (by omega), Option.some.injEq, Prod.mk.injEq]
    exact ⟨show n / 1000 * 1000 = n by omega, rfl⟩
  · rw [readFraction?_padded (by decide) (by decide) h, Option.some.injEq, Prod.mk.injEq]
    exact ⟨Nat.mul_one n, rfl⟩

lemma parseLenient?_parts {year : ℤ} {month day h m s nanos : ℕ} (hlo : -262143 ≤ year)
    (hhi : year ≤ 262142) (hmo : month < 100) (hd : day < 100) (hh : h < 100) (hm : m < 100)
    (hs : s < 100) (hn : nanos < 10 ^ 9) :
    parseLenient? (String.ofList (yearText year ++ '-' :: padded 2 month ++ '-' :: padded 2 day ++
      'T' :: padded 2 h ++ ':' :: padded 2 m ++ ':' :: padded 2 s ++ fractionText nanos ++ ['Z'])) =
        ofClock? ⟨year, month, day⟩ h m s nanos 0 := by
  have hdash (cs : List Char) : expect? '-' ('-' :: cs) = some cs := rfl
  have hcolon (cs : List Char) : expect? ':' (':' :: cs) = some cs := rfl
  have hzone : readLenientOffset? (skipBlanks ['Z']) = some (0, []) := rfl
  have hyear : ¬(year < -262143 ∨ 262142 < year) := by omega
  have hrange {n : ℕ} (h : n < 100) (cs : List Char) : readNumber? 2 (padded 2 n ++ cs) = some (n, cs) :=
    readNumber?_padded (by decide) h cs
  simp only [List.append_assoc, List.cons_append]
  rw [parseLenient?, String.toList_ofList]
  refine (bind_of_eq_some (readYear?_yearText year _)).trans ?_
  refine (bind_of_eq_some (hdash _)).trans <| (bind_of_eq_some (hrange hmo _)).trans ?_
  refine (bind_of_eq_some (hdash _)).trans <| (bind_of_eq_some (hrange hd _)).trans ?_
  refine (bind_of_eq_some (hrange hh _)).trans ?_
  refine (bind_of_eq_some (hcolon _)).trans <| (bind_of_eq_some (hrange hm _)).trans ?_
  refine (bind_of_eq_some (hcolon _)).trans <| (bind_of_eq_some (hrange hs _)).trans ?_
  refine (bind_of_eq_some (readFraction?_fractionText hn)).trans <| (bind_of_eq_some hzone).trans ?_
  exact if_neg hyear

theorem parseLenient?_exact {t : Instant} (ht : t.InRange) : parseLenient? t.exact = some t := by
  obtain ⟨hvalid, hlo, hhi⟩ := ht
  obtain ⟨-, -, hmonth, hday⟩ := Date.ofDays_spec (t.seconds / daySeconds)
  obtain ⟨r, hr⟩ := Int.eq_ofNat_of_zero_le (Int.emod_nonneg t.seconds (b := daySeconds) (by decide))
  have hrest : r < 86400 := by
    simp only [daySeconds, Nat.cast_ofNat] at hr
    omega
  have hnanos : t.nanos % billion < 10 ^ 9 := Nat.mod_lt _ (by decide)
  rw [exact, wholeText, hr]
  simp only [Int.toNat_natCast]
  rw [parseLenient?_parts hlo hhi (by omega) (by omega) (by omega) (by omega)
    (by split <;> omega) hnanos]
  exact ofClock?_shown hvalid hr

end TypedArtifacts.Instant
