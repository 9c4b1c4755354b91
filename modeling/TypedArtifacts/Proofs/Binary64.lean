import Mathlib.Tactic
import TypedArtifacts.Binary64

/-! The values of doubles, and what rounding to the nearest one keeps of the order. -/

namespace TypedArtifacts.Binary64

def toRat : Binary64 → ℚ
  | finite s m e => signed s m * 2 ^ e
  | _ => 0

def Fits : Binary64 → Prop
  | finite _ m e => m < 2 ^ 53 ∧ minExponent ≤ e
  | _ => False

lemma Canonical.fits {x : Binary64} (h : x.Canonical) (hf : x.isFinite = true) : x.Fits := by
  cases x with
  | finite s m e => exact ⟨h.1, h.2.1⟩
  | _ => cases hf

lemma two_zpow_pos (e : ℤ) : (0 : ℚ) < 2 ^ e :=
  zpow_pos two_pos e

lemma cast_pow_toNat {e : ℤ} (h : 0 ≤ e) : ((Nat.pow 2 e.toNat : ℕ) : ℚ) = 2 ^ e := by
  rw [Nat.pow_eq, Nat.cast_pow, Nat.cast_ofNat, ← zpow_natCast, Int.toNat_of_nonneg h]

lemma signed_true (m : ℕ) : signed true m = -m := rfl

lemma signed_false (m : ℕ) : signed false m = m := rfl

lemma signed_mul (s : Bool) (m n : ℕ) : signed s (m * n) = signed s m * n := by
  cases s <;> simp [signed]

lemma signed_eq (s : Bool) (m : ℕ) : (signed s m : ℚ) = signed s 1 * m := by
  cases s <;> simp [signed]

lemma signed_natAbs (n : ℤ) : signed (decide (n < 0)) n.natAbs = n := by
  by_cases h : n < 0
  · rw [decide_eq_true h, signed_true]
    omega
  · rw [decide_eq_false h, signed_false]
    omega

lemma scaledTo_eq {low e : ℤ} (h : low ≤ e) (s : Bool) (m : ℕ) :
    (scaledTo low s m e : ℚ) * 2 ^ low = signed s m * 2 ^ e := by
  rw [scaledTo, signed_mul, Int.cast_mul, Int.cast_natCast, cast_pow_toNat (by omega), mul_assoc,
    ← zpow_add₀ two_ne_zero, sub_add_cancel]

lemma lt_iff {x y : Binary64} (hx : x.isFinite = true) (hy : y.isFinite = true) :
    x.lt y = true ↔ x.toRat < y.toRat := by
  cases x with
  | finite s m e =>
    cases y with
    | finite t n f =>
      simp only [lt, decide_eq_true_eq, toRat]
      rw [← scaledTo_eq (min_le_left e f), ← scaledTo_eq (min_le_right e f),
        mul_lt_mul_iff_left₀ (two_zpow_pos _), Int.cast_lt]
    | _ => cases hy
  | _ => cases hx

lemma toRat_neg (x : Binary64) : x.neg.toRat = -x.toRat := by
  cases x with
  | finite s m e => cases s <;> simp [neg, toRat, signed]
  | _ => simp [neg, toRat]

lemma Fits.neg {x : Binary64} (h : x.Fits) : x.neg.Fits := by
  cases x with
  | finite s m e => exact h
  | _ => exact h

section

variable {k num den : ℕ}

lemma div_le_roundDiv (num den : ℕ) : num / den ≤ roundDiv num den := by
  unfold roundDiv
  dsimp only
  split_ifs <;> omega

lemma le_roundDiv (hd : 0 < den) (h : k * den ≤ num) : k ≤ roundDiv num den :=
  ((Nat.le_div_iff_mul_le hd).2 h).trans (div_le_roundDiv num den)

lemma roundDiv_le (hd : 0 < den) (h : num ≤ k * den) : roundDiv num den ≤ k := by
  have hq : num / den ≤ k := Nat.div_le_of_le_mul (by rwa [Nat.mul_comm] at h)
  have hnum := Nat.div_add_mod num den
  rcases hq.lt_or_eq with hlt | rfl
  · unfold roundDiv
    dsimp only
    split_ifs <;> omega
  · have hr : num % den = 0 := by
      rw [Nat.mul_comm] at h
      omega
    simp [roundDiv, hr, hd]

lemma overPower_pos (num : ℕ) (hd : 0 < den) (e : ℤ) : 0 < (overPower num den e).2 := by
  unfold overPower
  split
  · exact Nat.mul_pos hd (Nat.two_pow_pos _)
  · exact hd

lemma overPower_eq (num den : ℕ) (e : ℤ) :
    ((overPower num den e).1 : ℚ) / (overPower num den e).2 * 2 ^ e = num / den := by
  have hpow := two_zpow_pos e
  unfold overPower
  split
  · rename_i h
    rw [Nat.cast_mul, cast_pow_toNat h, ← div_div, div_mul_cancel₀ _ hpow.ne']
  · rename_i h
    rw [Nat.cast_mul, cast_pow_toNat (by omega), zpow_neg]
    field_simp

lemma log2_bounds (hn : num ≠ 0) (hd : den ≠ 0) :
    (2 : ℚ) ^ ((num.log2 : ℤ) - den.log2 - 1) < num / den ∧
      (num : ℚ) / den < 2 ^ ((num.log2 : ℤ) - den.log2 + 1) := by
  have hden : (0 : ℚ) < den := by exact_mod_cast Nat.pos_of_ne_zero hd
  have hnum_low : (2 : ℚ) ^ (num.log2 : ℤ) ≤ num := by exact_mod_cast Nat.log2_self_le hn
  have hnum_high : (num : ℚ) < 2 ^ ((num.log2 : ℤ) + 1) := by exact_mod_cast Nat.lt_log2_self
  have hden_low : (2 : ℚ) ^ (den.log2 : ℤ) ≤ den := by exact_mod_cast Nat.log2_self_le hd
  have hden_high : (den : ℚ) < 2 ^ ((den.log2 : ℤ) + 1) := by exact_mod_cast Nat.lt_log2_self
  constructor
  · rw [lt_div_iff₀ hden]
    calc (2 : ℚ) ^ ((num.log2 : ℤ) - den.log2 - 1) * den
        < 2 ^ ((num.log2 : ℤ) - den.log2 - 1) * 2 ^ ((den.log2 : ℤ) + 1) :=
          mul_lt_mul_of_pos_left hden_high (two_zpow_pos _)
      _ = 2 ^ (num.log2 : ℤ) := by
          rw [← zpow_add₀ two_ne_zero]
          congr 1
          ring
      _ ≤ num := hnum_low
  · rw [div_lt_iff₀ hden]
    calc (num : ℚ) < 2 ^ ((num.log2 : ℤ) + 1) := hnum_high
      _ = 2 ^ ((num.log2 : ℤ) - den.log2 + 1) * 2 ^ (den.log2 : ℤ) := by
          rw [← zpow_add₀ two_ne_zero]
          congr 1
          ring
      _ ≤ 2 ^ ((num.log2 : ℤ) - den.log2 + 1) * den :=
          mul_le_mul_of_nonneg_left hden_low (two_zpow_pos _).le

lemma overPower_lt_iff (num : ℕ) (hd : 0 < den) (e : ℤ) (k : ℕ) :
    (overPower num den e).1 / (overPower num den e).2 < k ↔ (num : ℚ) / den < k * 2 ^ e := by
  have hpos := overPower_pos num hd e
  have hcast : (0 : ℚ) < (overPower num den e).2 := by exact_mod_cast hpos
  rw [Nat.div_lt_iff_lt_mul hpos, ← overPower_eq num den e, mul_lt_mul_iff_left₀ (two_zpow_pos e),
    div_lt_iff₀ hcast]
  exact_mod_cast Iff.rfl

lemma pow_mul_zpow (n : ℕ) (e : ℤ) : (2 : ℚ) ^ n * 2 ^ e = 2 ^ (n + e) := by
  rw [← zpow_natCast, ← zpow_add₀ two_ne_zero]

lemma fitExponent_eq (num : ℕ) (hd : 0 < den) :
    fitExponent num den =
      max (if (num : ℚ) / den < 2 ^ 53 * 2 ^ ((num.log2 : ℤ) - den.log2 - 53)
        then (num.log2 : ℤ) - den.log2 - 53 else (num.log2 : ℤ) - den.log2 - 53 + 1) minExponent := by
  have h := overPower_lt_iff num hd ((num.log2 : ℤ) - den.log2 - 53) (2 ^ 53)
  push_cast at h
  simp only [fitExponent, precision, Nat.pow_eq, Nat.cast_ofNat, h]
  norm_num

lemma exists_fit {q : ℚ} {g : ℤ} (hlow : 2 ^ 52 * 2 ^ g ≤ q) (hhigh : q < 2 ^ 53 * 2 ^ (g + 1)) :
    ∃ e, (if q < 2 ^ 53 * 2 ^ g then g else g + 1) = e ∧
      q < 2 ^ 53 * 2 ^ e ∧ 2 ^ 52 * 2 ^ e ≤ q := by
  split
  · rename_i h
    exact ⟨g, rfl, h, hlow⟩
  · rename_i h
    refine ⟨g + 1, rfl, hhigh, ?_⟩
    have hpow : (2 : ℚ) ^ 52 * 2 ^ (g + 1) = 2 ^ 53 * 2 ^ g := by
      rw [pow_mul_zpow, pow_mul_zpow]
      congr 1
      omega
    exact hpow.trans_le (not_lt.1 h)

lemma fitExponent_spec (hn : num ≠ 0) (hd : 0 < den) :
    (num : ℚ) / den < 2 ^ 53 * 2 ^ fitExponent num den ∧
      (fitExponent num den = minExponent ∨ 2 ^ 52 * 2 ^ fitExponent num den ≤ (num : ℚ) / den) := by
  obtain ⟨hlow, hhigh⟩ := log2_bounds hn hd.ne'
  rw [fitExponent_eq num hd]
  generalize hg : (num.log2 : ℤ) - den.log2 - 53 = g
  have hpow_low : (2 : ℚ) ^ 52 * 2 ^ g = 2 ^ ((num.log2 : ℤ) - den.log2 - 1) := by
    rw [pow_mul_zpow]
    congr 1
    omega
  have hpow_high : (2 : ℚ) ^ 53 * 2 ^ (g + 1) = 2 ^ ((num.log2 : ℤ) - den.log2 + 1) := by
    rw [pow_mul_zpow]
    congr 1
    omega
  obtain ⟨e, he, hupper, hlower⟩ :=
    exists_fit (hpow_low.trans_le hlow.le) (hhigh.trans_eq hpow_high.symm)
  rw [he]
  rcases le_total minExponent e with h | h
  · rw [max_eq_left h]
    exact ⟨hupper, .inr hlower⟩
  · rw [max_eq_right h]
    refine ⟨hupper.trans_le ?_, .inl rfl⟩
    gcongr
    exact one_le_two

def rounded (num den : ℕ) : ℚ :=
  let unit := overPower num den (fitExponent num den)
  roundDiv unit.1 unit.2 * 2 ^ fitExponent num den

lemma le_rounded_of_units (hd : 0 < den) (h : (k : ℚ) * 2 ^ fitExponent num den ≤ num / den) :
    k * 2 ^ fitExponent num den ≤ rounded num den := by
  have hpos := overPower_pos num hd (fitExponent num den)
  have hcast : (0 : ℚ) < (overPower num den (fitExponent num den)).2 := by exact_mod_cast hpos
  rw [← overPower_eq num den (fitExponent num den), mul_le_mul_iff_left₀ (two_zpow_pos _),
    le_div_iff₀ hcast] at h
  have hk := le_roundDiv hpos (k := k) (by exact_mod_cast h)
  rw [rounded, mul_le_mul_iff_left₀ (two_zpow_pos _)]
  exact_mod_cast hk

lemma rounded_le_of_units (hd : 0 < den) (h : (num : ℚ) / den ≤ k * 2 ^ fitExponent num den) :
    rounded num den ≤ k * 2 ^ fitExponent num den := by
  have hpos := overPower_pos num hd (fitExponent num den)
  have hcast : (0 : ℚ) < (overPower num den (fitExponent num den)).2 := by exact_mod_cast hpos
  rw [← overPower_eq num den (fitExponent num den), mul_le_mul_iff_left₀ (two_zpow_pos _),
    div_le_iff₀ hcast] at h
  have hk := roundDiv_le hpos (k := k) (by exact_mod_cast h)
  rw [rounded, mul_le_mul_iff_left₀ (two_zpow_pos _)]
  exact_mod_cast hk

lemma units_or_small {m : ℕ} {e f : ℤ} (hm : m < 2 ^ 53) (hf : minExponent ≤ f) :
    (∃ k : ℕ, (m : ℚ) * 2 ^ f = k * 2 ^ e) ∨ e ≠ minExponent ∧ (m : ℚ) * 2 ^ f < 2 ^ 52 * 2 ^ e := by
  rcases le_or_gt e f with h | h
  · refine .inl ⟨m * Nat.pow 2 (f - e).toNat, ?_⟩
    rw [Nat.cast_mul, cast_pow_toNat (by omega), mul_assoc, ← zpow_add₀ two_ne_zero, sub_add_cancel]
  · refine .inr ⟨by omega, ?_⟩
    have hcast : (m : ℚ) < 2 ^ 53 := by exact_mod_cast hm
    calc (m : ℚ) * 2 ^ f < 2 ^ 53 * 2 ^ f := mul_lt_mul_of_pos_right hcast (two_zpow_pos f)
      _ = 2 ^ (53 + f) := pow_mul_zpow 53 f
      _ ≤ 2 ^ (52 + e) := zpow_le_zpow_right₀ one_le_two (by omega)
      _ = 2 ^ 52 * 2 ^ e := (pow_mul_zpow 52 e).symm

variable {m : ℕ} {f : ℤ}

lemma le_rounded (hn : num ≠ 0) (hd : 0 < den) (hm : m < 2 ^ 53) (hf : minExponent ≤ f)
    (h : (m : ℚ) * 2 ^ f ≤ num / den) : m * 2 ^ f ≤ rounded num den := by
  rcases units_or_small (e := fitExponent num den) hm hf with ⟨k, hk⟩ | ⟨hmin, hsmall⟩
  · rw [hk] at h ⊢
    exact le_rounded_of_units hd h
  · -- The number is below all quotients of this exponent, and so below what they are rounded to.
    have hlow := (fitExponent_spec hn hd).2.resolve_left hmin
    have hunits := le_rounded_of_units (k := 2 ^ 52) hd (by exact_mod_cast hlow)
    push_cast at hunits
    exact hsmall.le.trans hunits

lemma rounded_le (hn : num ≠ 0) (hd : 0 < den) (hm : m < 2 ^ 53) (hf : minExponent ≤ f)
    (h : (num : ℚ) / den ≤ m * 2 ^ f) : rounded num den ≤ m * 2 ^ f := by
  rcases units_or_small (e := fitExponent num den) hm hf with ⟨k, hk⟩ | ⟨hmin, hsmall⟩
  · rw [hk] at h ⊢
    exact rounded_le_of_units hd h
  · have hlow := (fitExponent_spec hn hd).2.resolve_left hmin
    exact absurd (hlow.trans h) (not_le.2 hsmall)

lemma rounded_nonneg (num den : ℕ) : 0 ≤ rounded num den := by
  rw [rounded]
  positivity

lemma ofRatio_spec (hn : num ≠ 0) (hd : 0 < den) (he : fitExponent num den < maxExponent) (s : Bool) :
    (ofRatio s num den).isFinite = true ∧
      (ofRatio s num den).toRat = signed s 1 * rounded num den := by
  have hupper := rounded_le_of_units (k := 2 ^ 53) hd
    (by exact_mod_cast (fitExponent_spec hn hd).1.le)
  rw [rounded, mul_le_mul_iff_left₀ (two_zpow_pos _)] at hupper
  rw [ofRatio, if_neg hn, rounded]
  dsimp only
  generalize roundDiv _ _ = m at hupper ⊢
  generalize fitExponent num den = e at he ⊢
  have hm : m ≤ 2 ^ 53 := by exact_mod_cast hupper
  rcases hm.lt_or_eq with hlt | rfl
  · have hfits : m < Nat.pow 2 precision := hlt
    simp only [if_pos hfits, if_pos he.le]
    refine ⟨rfl, ?_⟩
    rw [toRat, signed_eq, mul_assoc]
  · have hlong : ¬2 ^ 53 < Nat.pow 2 precision := Nat.lt_irrefl _
    have he' : e + 1 ≤ maxExponent := he
    simp only [if_neg hlong, if_pos he']
    refine ⟨rfl, ?_⟩
    have hpow : ((2 ^ 52 : ℕ) : ℚ) * 2 ^ (e + 1) = ((2 ^ 53 : ℕ) : ℚ) * 2 ^ e := by
      rw [Nat.cast_pow, Nat.cast_pow, Nat.cast_ofNat, pow_mul_zpow, pow_mul_zpow]
      congr 1
      omega
    change (signed s (2 ^ 52) : ℚ) * 2 ^ (e + 1) = signed s 1 * (((2 ^ 53 : ℕ) : ℚ) * 2 ^ e)
    rw [signed_eq, mul_assoc, hpow]

lemma ofRatio_not (s : Bool) (num den : ℕ) : ofRatio (!s) num den = (ofRatio s num den).neg := by
  unfold ofRatio
  dsimp only
  split_ifs <;> rfl

end

section

variable {x : Binary64} {n : ℤ}

lemma fitExponent_lt (h : n.natAbs ≤ 2 ^ 63) (h0 : n ≠ 0) : fitExponent n.natAbs 1 < maxExponent := by
  rcases (fitExponent_spec (Int.natAbs_ne_zero.2 h0) one_pos).2 with he | he
  · rw [he]
    decide
  · have hcast : (n.natAbs : ℚ) ≤ 2 ^ 63 := by exact_mod_cast h
    have hpow : (2 : ℚ) ^ (52 + fitExponent n.natAbs 1) ≤ 2 ^ (63 : ℤ) := by
      calc (2 : ℚ) ^ (52 + fitExponent n.natAbs 1) = 2 ^ 52 * 2 ^ fitExponent n.natAbs 1 :=
            (pow_mul_zpow 52 _).symm
        _ ≤ n.natAbs / (1 : ℕ) := he
        _ ≤ 2 ^ (63 : ℤ) := by simpa using hcast
    have hexp := (zpow_le_zpow_iff_right₀ one_lt_two).1 hpow
    simp only [maxExponent]
    omega

lemma ofInt_spec (h : n.natAbs ≤ 2 ^ 63) (h0 : n ≠ 0) :
    (ofInt n).isFinite = true ∧
      (ofInt n).toRat = signed (decide (n < 0)) 1 * rounded n.natAbs 1 :=
  ofRatio_spec (Int.natAbs_ne_zero.2 h0) one_pos (fitExponent_lt h h0) _

lemma isFinite_ofInt (h : n.natAbs ≤ 2 ^ 63) : (ofInt n).isFinite = true := by
  by_cases h0 : n = 0
  · subst h0
    rfl
  · exact (ofInt_spec h h0).1

lemma toRat_ofInt_zero : (ofInt 0).toRat = 0 := by
  simp [ofInt, ofRatio, zero, toRat, signed]

lemma toRat_ofInt_neg (n : ℤ) : (ofInt (-n)).toRat = -(ofInt n).toRat := by
  by_cases h0 : n = 0
  · subst h0
    simp [toRat_ofInt_zero]
  · have hsign : decide (-n < 0) = !decide (n < 0) := by
      rcases lt_or_gt_of_ne h0 with h | h
      · simp [h, h.le]
      · simp [h, h.le]
    rw [ofInt, hsign, Int.natAbs_neg, ofRatio_not, toRat_neg, ofInt]

lemma toRat_ofInt_of_pos (hn : n.natAbs ≤ 2 ^ 63) (hpos : 0 < n) :
    (ofInt n).toRat = rounded n.natAbs 1 := by
  rw [(ofInt_spec hn hpos.ne').2, decide_eq_false hpos.not_gt, signed_false]
  simp

lemma toRat_true_nonpos (m : ℕ) (e : ℤ) : (finite true m e).toRat ≤ 0 := by
  have hpos : (0 : ℚ) ≤ m * 2 ^ e := by positivity
  simpa [toRat, signed_true] using hpos

lemma toRat_false (m : ℕ) (e : ℤ) : (finite false m e).toRat = m * 2 ^ e := by
  simp [toRat, signed_false]

lemma cast_natAbs_of_pos (hpos : 0 < n) : (n : ℚ) = (n.natAbs : ℚ) / (1 : ℕ) := by
  rw [Nat.cast_one, div_one, Nat.cast_natAbs, abs_of_pos hpos]

lemma le_ofInt_of_pos (hx : x.Fits) (hn : n.natAbs ≤ 2 ^ 63) (hpos : 0 < n) (h : x.toRat ≤ n) :
    x.toRat ≤ (ofInt n).toRat := by
  cases x with
  | finite s m e =>
    rw [toRat_ofInt_of_pos hn hpos]
    cases s with
    | false =>
      rw [toRat_false, cast_natAbs_of_pos hpos] at h
      rw [toRat_false]
      exact le_rounded (Int.natAbs_ne_zero.2 hpos.ne') one_pos hx.1 hx.2 h
    | true => exact (toRat_true_nonpos m e).trans (rounded_nonneg _ _)
  | _ => cases hx

lemma ofInt_le_of_pos (hx : x.Fits) (hn : n.natAbs ≤ 2 ^ 63) (hpos : 0 < n) (h : n ≤ x.toRat) :
    (ofInt n).toRat ≤ x.toRat := by
  cases x with
  | finite s m e =>
    rw [toRat_ofInt_of_pos hn hpos]
    cases s with
    | false =>
      rw [toRat_false, cast_natAbs_of_pos hpos] at h
      rw [toRat_false]
      exact rounded_le (Int.natAbs_ne_zero.2 hpos.ne') one_pos hx.1 hx.2 h
    | true =>
      have hneg : (n : ℚ) ≤ 0 := h.trans (toRat_true_nonpos m e)
      exact absurd hpos (not_lt.2 (by exact_mod_cast hneg))
  | _ => cases hx

lemma le_ofInt (hx : x.Fits) (hn : n.natAbs ≤ 2 ^ 63) (h : x.toRat ≤ n) :
    x.toRat ≤ (ofInt n).toRat := by
  rcases lt_trichotomy n 0 with hneg | rfl | hpos
  · have hover : ((-n : ℤ) : ℚ) ≤ x.neg.toRat := by
      rw [toRat_neg]
      push_cast
      exact neg_le_neg h
    have hle := ofInt_le_of_pos hx.neg (by rwa [Int.natAbs_neg]) (neg_pos.2 hneg) hover
    rw [toRat_neg, toRat_ofInt_neg] at hle
    exact neg_le_neg_iff.1 hle
  · simpa [toRat_ofInt_zero] using h
  · exact le_ofInt_of_pos hx hn hpos h

lemma ofInt_le (hx : x.Fits) (hn : n.natAbs ≤ 2 ^ 63) (h : n ≤ x.toRat) :
    (ofInt n).toRat ≤ x.toRat := by
  have hunder : x.neg.toRat ≤ ((-n : ℤ) : ℚ) := by
    rw [toRat_neg]
    push_cast
    exact neg_le_neg h
  have hle := le_ofInt hx.neg (by rwa [Int.natAbs_neg]) hunder
  rw [toRat_neg, toRat_ofInt_neg] at hle
  exact neg_le_neg_iff.1 hle

lemma toRat_ofInt (h : n.natAbs ≤ 2 ^ 53) : (ofInt n).toRat = n := by
  have hfits : ∃ x : Binary64, x.Fits ∧ x.toRat = n := by
    rcases h.lt_or_eq with hlt | heq
    · refine ⟨finite (decide (n < 0)) n.natAbs 0, ⟨hlt, by decide⟩, ?_⟩
      rw [toRat, signed_natAbs, zpow_zero, mul_one]
    · refine ⟨finite (decide (n < 0)) 1 53, ⟨by decide, by decide⟩, ?_⟩
      have hn := signed_eq (decide (n < 0)) n.natAbs
      rw [signed_natAbs, heq] at hn
      rw [hn, toRat]
      norm_num
  obtain ⟨x, hx, hn⟩ := hfits
  have hle : n.natAbs ≤ 2 ^ 63 := h.trans (by decide)
  rw [← hn]
  exact le_antisymm (ofInt_le hx hle hn.ge) (le_ofInt hx hle hn.le)

end

end TypedArtifacts.Binary64
