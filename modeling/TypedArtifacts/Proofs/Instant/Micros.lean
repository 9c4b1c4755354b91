import TypedArtifacts.Instant.Rfc3339
import TypedArtifacts.Proofs.Instant.Calendar

/-! Reading back instants that are written with six fraction digits. -/

namespace TypedArtifacts.Instant

def Valid (t : Instant) : Prop :=
  t.nanos < billion ∨ t.nanos < 2 * billion ∧ t.seconds % 60 = 59

structure InMicros (t : Instant) : Prop where
  valid : t.Valid
  micro : t.nanos % 1000 = 0
  year_nonneg : 0 ≤ (Date.ofDays (t.seconds / daySeconds)).year
  year_le : (Date.ofDays (t.seconds / daySeconds)).year ≤ 9999

lemma padded_succ {w : ℕ} (hw : 0 < w) (n : ℕ) :
    padded (w + 1) n = padded w (n / 10) ++ [(n % 10).digitChar] := by
  rcases Nat.lt_or_ge n 10 with h | h
  · rw [padded, padded, Nat.toDigits_of_lt_base h, Nat.div_eq_of_lt h, Nat.mod_eq_of_lt h,
      Nat.toDigits_zero]
    obtain ⟨w, rfl⟩ := Nat.exists_eq_succ_of_ne_zero hw.ne'
    simp [List.replicate_succ']
  · rw [padded, padded, Nat.toDigits_of_base_le (by omega) h, List.length_append,
      ← List.append_assoc]
    simp

lemma padded_one {n : ℕ} (h : n < 10) : padded 1 n = [n.digitChar] := by
  simp [padded, Nat.toDigits_of_lt_base h]

lemma padded_two {n : ℕ} (h : n < 100) : padded 2 n = [(n / 10).digitChar, (n % 10).digitChar] := by
  rw [padded_succ (by omega), padded_one (by omega)]
  rfl

lemma padded_four {n : ℕ} (h : n < 10000) :
    padded 4 n = [(n / 1000).digitChar, (n / 100 % 10).digitChar, (n / 10 % 10).digitChar,
      (n % 10).digitChar] := by
  rw [padded_succ (by omega), padded_succ (by omega), padded_two (by omega)]
  simp [Nat.div_div_eq_div_mul]

lemma length_padded {w n : ℕ} (hw : 0 < w) (h : n < 10 ^ w) : (padded w n).length = w := by
  have hl := (Nat.length_toDigits_le_iff (n := n) (by omega : 1 < 10) hw).2 h
  simp only [padded, List.length_append, List.length_replicate]
  omega

lemma isDigit_padded {w n : ℕ} {c : Char} (h : c ∈ padded w n) : c.isDigit = true := by
  rcases List.mem_append.1 h with h | h
  · rw [List.eq_of_mem_replicate h]
    rfl
  · exact Nat.isDigit_of_mem_toDigits (by omega) (by omega) h

lemma toNat_digitChar {n : ℕ} (h : n < 10) : n.digitChar.toNat - '0'.toNat = n := by
  revert n
  decide

lemma digit?_digitChar {n : ℕ} (h : n < 10) : digit? n.digitChar = some n := by
  revert n
  decide

lemma numeral_append (cs : List Char) (c : Char) :
    Text.numeral (cs ++ [c]) = Text.numeral cs * 10 + (c.toNat - '0'.toNat) := by
  simp [Text.numeral]

lemma numeral_toDigits (n : ℕ) : Text.numeral (Nat.toDigits 10 n) = n := by
  induction n using Nat.strong_induction_on with
  | _ n ih =>
    rcases Nat.lt_or_ge n 10 with h | h
    · rw [Nat.toDigits_of_lt_base h]
      simpa [Text.numeral] using toNat_digitChar h
    · rw [Nat.toDigits_of_base_le (by omega) h, numeral_append, toNat_digitChar (by omega),
        ih (n / 10) (by omega)]
      omega

lemma numeral_zeros (k : ℕ) : Text.numeral (List.replicate k '0') = 0 := by
  induction k with
  | zero => rfl
  | succ k ih => rw [List.replicate_succ', numeral_append, ih]; rfl

lemma numeral_padded (w n : ℕ) : Text.numeral (padded w n) = n := by
  have hzeros := numeral_zeros (w - (Nat.toDigits 10 n).length)
  rw [Text.numeral] at hzeros
  rw [padded, Text.numeral, List.foldl_append, hzeros]
  exact numeral_toDigits n

lemma twoDigits?_padded {n : ℕ} (h : n < 100) :
    twoDigits? (n / 10).digitChar (n % 10).digitChar = some n := by
  rw [twoDigits?, digit?_digitChar (by omega), digit?_digitChar (by omega)]
  simp only [Option.bind_eq_bind, Option.bind_some, Option.pure_def, Option.some.injEq]
  omega

lemma fourDigits?_padded {n : ℕ} (h : n < 10000) :
    fourDigits? (n / 1000).digitChar (n / 100 % 10).digitChar (n / 10 % 10).digitChar
      (n % 10).digitChar = some n := by
  have hhi := twoDigits?_padded (n := n / 100) (by omega)
  have hlo := twoDigits?_padded (n := n % 100) (by omega)
  rw [Nat.div_div_eq_div_mul] at hhi
  rw [show n % 100 / 10 = n / 10 % 10 by omega, show n % 100 % 10 = n % 10 by omega] at hlo
  rw [fourDigits?, hhi, hlo]
  simp only [Option.bind_eq_bind, Option.bind_some, Option.pure_def, Option.some.injEq]
  omega

lemma readFraction?_padded {w n : ℕ} (hw : 0 < w) (hle : w ≤ 9) (h : n < 10 ^ w) :
    readFraction? ('.' :: padded w n ++ ['Z']) = some (n * 10 ^ (9 - w), ['Z']) := by
  have hd : ∀ c ∈ padded w n, c.isDigit = true := fun c hc => isDigit_padded hc
  have hlen := length_padded hw h
  have htake : (padded w n ++ ['Z']).takeWhile Char.isDigit = padded w n := by
    rw [List.takeWhile_append_of_pos hd]
    simp
  have hdrop : (padded w n ++ ['Z']).dropWhile Char.isDigit = ['Z'] := by
    rw [List.dropWhile_append_of_pos hd]
    rfl
  have hne : (padded w n).isEmpty = false := by
    cases hp : padded w n with
    | nil =>
      rw [hp] at hlen
      exact absurd hlen hw.ne
    | cons _ _ => rfl
  rw [List.cons_append, readFraction?]
  simp only [htake, hdrop, hne, Bool.false_eq_true, if_false, Option.some.injEq, Prod.mk.injEq,
    and_true]
  rw [fractionNanos, List.take_of_length_le (by omega), numeral_padded, hlen]
  rfl

lemma ofClock?_utc {d : Date} {h m s nanos : ℕ} (hd : d.valid = true) (hh : h < 24) (hm : m < 60)
    (hs : s < 60) :
    ofClock? d h m s nanos 0 =
      some ⟨d.toDays * daySeconds + (h * 3600 + m * 60 + s : ℕ), nanos⟩ := by
  rw [ofClock?, if_pos ⟨hd, hh, hm, by omega⟩, if_neg (by omega)]
  simp

lemma ofClock?_leap {d : Date} {h m nanos : ℕ} (hd : d.valid = true) (hh : h < 24) (hm : m < 60) :
    ofClock? d h m 60 nanos 0 =
      some ⟨d.toDays * daySeconds + (h * 3600 + m * 60 + 59 : ℕ), nanos + billion⟩ := by
  rw [ofClock?, if_pos ⟨hd, hh, hm, by omega⟩, if_pos rfl]
  simp

lemma parseChars?_parts (year month day h m s micros : ℕ) (hy : year < 10000)
    (hmo : month < 100) (hd : day < 100) (hh : h < 100) (hm : m < 100) (hs : s < 100)
    (hn : micros < 10 ^ 6) :
    parseChars? (padded 4 year ++ '-' :: padded 2 month ++ '-' :: padded 2 day ++ 'T' ::
      padded 2 h ++ ':' :: padded 2 m ++ ':' :: padded 2 s ++ '.' :: padded 6 micros ++ ['Z']) =
        ofClock? ⟨year, month, day⟩ h m s (micros * 1000) 0 := by
  rw [padded_four hy, padded_two hmo, padded_two hd, padded_two hh, padded_two hm, padded_two hs]
  simp only [List.cons_append, List.nil_append]
  rw [parseChars?]
  have hf : readFraction? ('.' :: padded 6 micros ++ ['Z']) = some (micros * 1000, ['Z']) :=
    readFraction?_padded (by decide) (by decide) hn
  rw [List.cons_append] at hf
  simp only [isSeparator, fourDigits?_padded hy, twoDigits?_padded hmo, twoDigits?_padded hd,
    twoDigits?_padded hh, twoDigits?_padded hm, twoDigits?_padded hs, hf, readOffset?,
    Option.bind_eq_bind, Option.bind_some, decide_true, Bool.true_or, Bool.not_true,
    Bool.false_eq_true, if_false]

lemma wholeText_eq {t : Instant} {year month day : ℕ} {rest : ℕ}
    (hdate : Date.ofDays (t.seconds / daySeconds) = ⟨year, month, day⟩) (hyear : year ≤ 9999)
    (hrest : t.seconds % daySeconds = rest) :
    wholeText t = padded 4 year ++ '-' :: padded 2 month ++ '-' :: padded 2 day ++ 'T' ::
      padded 2 (rest / 3600) ++ ':' :: padded 2 (rest / 60 % 60) ++ ':' ::
        padded 2 (rest % 60 + (if billion ≤ t.nanos then 1 else 0)) := by
  rw [wholeText, hdate, hrest]
  simp only [Int.toNat_natCast, yearText]
  rw [if_pos (by omega)]

lemma ofClock?_shown {t : Instant} (ht : t.Valid) {rest : ℕ} (hrest : t.seconds % daySeconds = rest) :
    ofClock? (Date.ofDays (t.seconds / daySeconds)) (rest / 3600) (rest / 60 % 60)
      (rest % 60 + if billion ≤ t.nanos then 1 else 0) (t.nanos % billion) 0 = some t := by
  obtain ⟨hd, hdays, -, -⟩ := Date.ofDays_spec (t.seconds / daySeconds)
  obtain ⟨seconds, nanos⟩ := t
  have hday : rest < 86400 := by
    simp only [daySeconds, Nat.cast_ofNat] at hrest
    omega
  rw [Valid] at ht
  by_cases hleap : billion ≤ nanos
  · have h59 : rest % 60 = 59 := by
      simp only [billion, daySeconds, Nat.cast_ofNat] at *
      omega
    simp only [if_pos hleap, h59]
    rw [ofClock?_leap hd (by omega) (by omega), hdays]
    simp only [daySeconds, billion, Option.some.injEq, Instant.mk.injEq, Nat.cast_ofNat] at *
    omega
  · simp only [if_neg hleap, Nat.add_zero]
    rw [ofClock?_utc hd (by omega) (by omega) (by omega), hdays]
    simp only [daySeconds, billion, Option.some.injEq, Instant.mk.injEq, Nat.cast_ofNat] at *
    omega

theorem parse?_micros {t : Instant} (ht : t.InMicros) : parse? t.micros = some t := by
  obtain ⟨hvalid, hmicro, hlo, hhi⟩ := ht
  obtain ⟨-, -, hmonth, hday⟩ := Date.ofDays_spec (t.seconds / daySeconds)
  obtain ⟨r, hr⟩ := Int.eq_ofNat_of_zero_le (Int.emod_nonneg t.seconds (b := daySeconds) (by decide))
  have hshown := ofClock?_shown hvalid hr
  generalize hdate : Date.ofDays (t.seconds / daySeconds) = date at hmonth hday hlo hhi hshown
  obtain ⟨year, month, day⟩ := date
  obtain ⟨y, rfl⟩ := Int.eq_ofNat_of_zero_le hlo
  have hmicros : t.nanos % billion / 1000 * 1000 = t.nanos % billion := by
    simp only [billion]
    omega
  rw [← hmicros] at hshown
  rw [parse?, micros, String.toList_ofList, wholeText_eq hdate (Int.ofNat_le.1 hhi) hr]
  simp only [billion, daySeconds, Nat.cast_ofNat] at *
  have hp := parseChars?_parts y month day (r / 3600) (r / 60 % 60)
    (r % 60 + if 1000000000 ≤ t.nanos then 1 else 0) (t.nanos % 1000000000 / 1000) (by omega)
    (by omega) (by omega) (by omega) (by omega) (by split <;> omega) (by omega)
  simp only [List.append_assoc, List.cons_append] at hp ⊢
  exact hp.trans hshown

end TypedArtifacts.Instant
