import TypedArtifacts.Proofs.Binary64
import TypedArtifacts.Proofs.Definition.Slots

namespace TypedArtifacts

namespace Binary64

def Between (lo hi : Binary64) (n : ℤ) : Prop :=
  lo.toRat ≤ n ∧ n ≤ hi.toRat

/-- The integer lies beyond a bound of a range, but the double next to it is the bound. -/
def OnBound (lo hi : Binary64) (n : ℤ) : Prop :=
  lo.toRat ≤ hi.toRat ∧
    (n < lo.toRat ∧ (ofInt n).toRat = lo.toRat ∨ hi.toRat < n ∧ (ofInt n).toRat = hi.toRat)

variable {lo hi x : Binary64} {n : ℤ}

lemma natAbs_toInt_le (n : Int64) : n.toInt.natAbs ≤ 2 ^ 63 := by
  have hlow := n.le_toInt
  have hhigh := n.toInt_lt
  omega

lemma between_ofInt_iff (hlo : lo.Fits) (hhi : hi.Fits) (hn : n.natAbs ≤ 2 ^ 63) :
    (lo.toRat ≤ (ofInt n).toRat ∧ (ofInt n).toRat ≤ hi.toRat) ↔ Between lo hi n ∨ OnBound lo hi n := by
  constructor
  · rintro ⟨hl, hh⟩
    -- Rounding crosses no bound, so it puts an integer from beyond one on the bound itself.
    by_cases hnlo : lo.toRat ≤ n
    · by_cases hnhi : n ≤ hi.toRat
      · exact .inl ⟨hnlo, hnhi⟩
      · have hover := le_ofInt hhi hn (not_le.1 hnhi).le
        exact .inr ⟨hl.trans hh, .inr ⟨not_le.1 hnhi, le_antisymm hh hover⟩⟩
    · have hunder := ofInt_le hlo hn (not_le.1 hnlo).le
      exact .inr ⟨hl.trans hh, .inl ⟨not_le.1 hnlo, le_antisymm hunder hl⟩⟩
  · rintro (⟨hl, hh⟩ | ⟨horder, ⟨_, heq⟩ | ⟨_, heq⟩⟩)
    · exact ⟨le_ofInt hlo hn hl, ofInt_le hhi hn hh⟩
    · exact ⟨heq.ge, heq.trans_le horder⟩
    · exact ⟨horder.trans heq.ge, heq.le⟩

lemma not_onBound_of_exact (h : (ofInt n).toRat = n) : ¬OnBound lo hi n := by
  rintro ⟨_, ⟨hlt, heq⟩ | ⟨hlt, heq⟩⟩
  · exact hlt.ne (h.symm.trans heq)
  · exact hlt.ne (heq.symm.trans h)

lemma le_abs_ofInt (hlong : 2 ^ 53 ≤ n.natAbs) (hn : n.natAbs ≤ 2 ^ 63) :
    2 ^ 53 ≤ |(ofInt n).toRat| := by
  have hfits : ∀ s, (finite s 1 53).Fits := fun _ => ⟨by decide, by decide⟩
  rcases le_or_gt 0 n with h | h
  · have hvalue : (finite false 1 53).toRat = 2 ^ 53 := by norm_num [toRat, signed]
    have hint : (2 ^ 53 : ℤ) ≤ n := by omega
    have hle := le_ofInt (hfits false) hn (by rw [hvalue]; exact_mod_cast hint)
    rw [hvalue] at hle
    exact hle.trans (le_abs_self _)
  · have hvalue : (finite true 1 53).toRat = -2 ^ 53 := by norm_num [toRat, signed]
    have hint : n ≤ (-2 ^ 53 : ℤ) := by omega
    have hle := ofInt_le (hfits true) hn (by rw [hvalue]; exact_mod_cast hint)
    rw [hvalue] at hle
    exact (le_neg_of_le_neg hle).trans (neg_le_abs _)

lemma not_onBound_of_short (hlo : |lo.toRat| < 2 ^ 53) (hhi : |hi.toRat| < 2 ^ 53)
    (hn : n.natAbs ≤ 2 ^ 63) : ¬OnBound lo hi n := by
  by_cases hshort : n.natAbs ≤ 2 ^ 53
  · exact not_onBound_of_exact (toRat_ofInt hshort)
  · have hle := le_abs_ofInt (not_le.1 hshort).le hn
    rintro ⟨_, ⟨_, heq⟩ | ⟨_, heq⟩⟩
    · rw [heq] at hle
      exact absurd hle (not_le.2 hlo)
    · rw [heq] at hle
      exact absurd hle (not_le.2 hhi)

end Binary64

namespace Definition

open Binary64

section

variable {ρ : Type} {lo hi : Binary64} {facets : List (Facet ρ)}

lemma validators_range
    (hf : facets.Perm [.limit (.minValue lo), .limit (.maxValue hi)]) (w : Validator ρ) :
    w ∈ ((scalar .integer).applyAll facets).validators ↔
      w = .ofRule "type" (.shape .integer) ∨ w = .ofRule "min_value" (.limit (.minValue lo)) ∨
        w = .ofRule "max_value" (.limit (.maxValue hi)) := by
  rcases List.perm_pair.1 hf with rfl | rfl
  · have hvalidators : ((scalar .integer).applyAll
        [.limit (.minValue lo), .limit (.maxValue hi)] : Definition ρ).validators =
          [.ofRule "type" (.shape .integer), .ofRule "min_value" (.limit (.minValue lo)),
            .ofRule "max_value" (.limit (.maxValue hi))] := rfl
    simp [hvalidators]
  · have hvalidators : ((scalar .integer).applyAll
        [.limit (.maxValue hi), .limit (.minValue lo)] : Definition ρ).validators =
          [.ofRule "type" (.shape .integer), .ofRule "max_value" (.limit (.maxValue hi)),
            .ofRule "min_value" (.limit (.minValue lo))] := rfl
    simp [hvalidators, or_comm]

variable [Referent ρ] [Predicates ρ]

lemma accepts_range (hlo : lo.isFinite = true) (hhi : hi.isFinite = true)
    (hf : facets.Perm [.limit (.minValue lo), .limit (.maxValue hi)]) (n : Int64) :
    ((scalar .integer).applyAll facets).Accepts (.integer n) ↔
      lo.toRat ≤ (ofInt n.toInt).toRat ∧ (ofInt n.toInt).toRat ≤ hi.toRat := by
  have hn := isFinite_ofInt (natAbs_toInt_le n)
  have hmin : (ofInt n.toInt).lt lo = false ↔ lo.toRat ≤ (ofInt n.toInt).toRat := by
    rw [← Bool.not_eq_true, lt_iff hn hlo, not_lt]
  have hmax : hi.lt (ofInt n.toInt) = false ↔ (ofInt n.toInt).toRat ≤ hi.toRat := by
    rw [← Bool.not_eq_true, lt_iff hhi hn, not_lt]
  rw [accepts_iff, ← hmin, ← hmax]
  simp only [validators_range hf]
  constructor
  · rintro ⟨hrules, _⟩
    exact ⟨hrules _ (.inr (.inl rfl)), hrules _ (.inr (.inr rfl))⟩
  · rintro ⟨hover, hunder⟩
    refine ⟨?_, fun _ => by rw [kind_applyAll]; rfl⟩
    rintro w (rfl | rfl | rfl)
    · rfl
    · exact hover
    · exact hunder

/-- A range takes all the integers in it, and of the others those that are rounded to one of its
bounds. There are none of these among the integers of 53 bits, nor for bounds below that. -/
theorem accepts_integer_iff (hlo : lo.Canonical) (hhi : hi.Canonical) (hlo' : lo.isFinite = true)
    (hhi' : hi.isFinite = true)
    (hf : facets.Perm [.limit (.minValue lo), .limit (.maxValue hi)]) (n : Int64) :
    (((scalar .integer).applyAll facets).Accepts (.integer n) ↔
      Between lo hi n.toInt ∨ OnBound lo hi n.toInt) ∧
    (n.toInt.natAbs ≤ 2 ^ 53 ∨ |lo.toRat| < 2 ^ 53 ∧ |hi.toRat| < 2 ^ 53 →
      (((scalar .integer).applyAll facets).Accepts (.integer n) ↔ Between lo hi n.toInt)) := by
  have hn := natAbs_toInt_le n
  have hiff : ((scalar .integer).applyAll facets).Accepts (.integer n) ↔
      Between lo hi n.toInt ∨ OnBound lo hi n.toInt := by
    rw [accepts_range hlo' hhi' hf, between_ofInt_iff (hlo.fits hlo') (hhi.fits hhi') hn]
  refine ⟨hiff, fun hshort => ?_⟩
  have hnot : ¬OnBound lo hi n.toInt := by
    rcases hshort with hshort | ⟨hl, hh⟩
    · exact not_onBound_of_exact (toRat_ofInt hshort)
    · exact not_onBound_of_short hl hh hn
  rw [hiff, or_iff_left hnot]

end

namespace Sample

attribute [local instance] Predicates.parityAndSize

def top : Binary64 :=
  .finite false (2 ^ 52) 1

def upToTop : List (Facet Artifact) :=
  [.limit (.maxValue top), .limit (.minValue (.zero false))]

lemma toRat_top : top.toRat = 2 ^ 53 := by
  norm_num [top, toRat, signed]

lemma toRat_bottom : (Binary64.zero false).toRat = 0 := by
  simp [zero, toRat, signed]

lemma ofInt_over_top : ofInt 9007199254740993 = top := by
  decide

lemma toInt_over_top : (9007199254740993 : Int64).toInt = 9007199254740993 := by
  decide

lemma onBound_top : OnBound (.zero false) top (9007199254740993 : Int64).toInt := by
  rw [OnBound, toInt_over_top, ofInt_over_top, toRat_bottom, toRat_top]
  norm_num

lemma canonical_top : top.Canonical :=
  ⟨by decide, by decide, by decide, .inl (by decide)⟩

lemma canonical_bottom : (Binary64.zero false).Canonical :=
  ⟨by decide, by decide, by decide, .inr rfl⟩

theorem accepts_integer_iff_top :
    (Binary64.zero false).Canonical ∧ top.Canonical ∧ (Binary64.zero false).isFinite = true ∧
      top.isFinite = true ∧ upToTop.Perm [.limit (.minValue (.zero false)), .limit (.maxValue top)] ∧
      ((scalar .integer).applyAll upToTop).Accepts (.integer 9007199254740993) ∧
      ((scalar .integer).applyAll upToTop).Accepts (.integer 9007199254740992) ∧
      ¬((scalar .integer).applyAll upToTop).Accepts (.integer (-1)) := by
  have hperm : upToTop.Perm [.limit (.minValue (.zero false)), .limit (.maxValue top)] :=
    List.perm_pair.2 (.inr rfl)
  have htop : (9007199254740992 : Int64).toInt = 9007199254740992 := by decide
  have hneg : (-1 : Int64).toInt = -1 := by decide
  have hiff := accepts_integer_iff canonical_bottom canonical_top rfl rfl hperm
  refine ⟨canonical_bottom, canonical_top, rfl, rfl, hperm, (hiff _).1.2 (.inr onBound_top),
    ((hiff _).2 (.inl (by decide))).2 ⟨?_, ?_⟩, fun h => ?_⟩
  · rw [toRat_bottom, htop]
    norm_num
  · rw [toRat_top, htop]
    norm_num
  · have hbetween := (((hiff _).2 (.inl (by decide))).1 h).1
    rw [toRat_bottom, hneg] at hbetween
    norm_num at hbetween

theorem bound_exceeded : ¬∀ (lo hi : Binary64) (n : Int64), lo.Canonical → hi.Canonical →
    lo.isFinite = true → hi.isFinite = true →
    (((scalar .integer).applyAll [.limit (.minValue lo), .limit (.maxValue hi)] :
        Definition Artifact).Accepts (.integer n) ↔ Between lo hi n.toInt) := by
  intro h
  have haccepts : ((scalar .integer).applyAll
      [.limit (.minValue (.zero false)), .limit (.maxValue top)] : Definition Artifact).Accepts
        (.integer 9007199254740993) := by
    rw [accepts_range rfl rfl (.refl _), toInt_over_top, ofInt_over_top, toRat_bottom, toRat_top]
    norm_num
  have hbetween := ((h _ _ _ canonical_bottom canonical_top rfl rfl).1 haccepts).2
  rw [toRat_top, toInt_over_top] at hbetween
  norm_num at hbetween

end Sample

end Definition

end TypedArtifacts
