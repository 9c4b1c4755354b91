import TypedArtifacts.Proofs.Instant.Micros
import TypedArtifacts.Proofs.Outcome
import TypedArtifacts.Proofs.Version.Grammar

/-! A version is read from one text only, the one it is written as, and what keeps a text from being
read: that the pattern for versions does not accept it, or that a number in it is too large or is
written with digits other than those of ASCII. -/

namespace TypedArtifacts.Version

def IsWord64 (cs : List Char) : Prop :=
  cs ≠ [] ∧ (∀ c ∈ cs, c.isDigit = true) ∧ Text.numeral cs < 2 ^ 64

variable {cs ds : List Char} {c : Char} {n : ℕ} {p : Parts} {v : Version} {t : String}

lemma word64?_eq_some : word64? cs = some n ↔ IsWord64 cs ∧ Text.numeral cs = n := by
  simp [word64?, IsWord64, UInt64.size, and_assoc]

instance (cs : List Char) : Decidable (IsWord64 cs) :=
  decidable_of_iff ((word64? cs).isSome = true) (by
    simp only [Option.isSome_iff_exists, word64?_eq_some, exists_and_left, exists_eq', and_true])

lemma component_eq_ok : component cs = .ok n ↔ IsWord64 cs ∧ Text.numeral cs = n := by
  rw [← word64?_eq_some, component]
  cases word64? cs <;> simp

lemma component_eq_error {e : VersionError} :
    component cs = .error e ↔ ¬ IsWord64 cs ∧ e = .overflow (String.ofList cs) := by
  by_cases h : IsWord64 cs
  · simp [component_eq_ok.2 ⟨h, rfl⟩, h]
  · have hnone : word64? cs = none :=
      Option.eq_none_iff_forall_ne_some.2 fun n hn => h (word64?_eq_some.1 hn).1
    simp [component, hnone, h, eq_comm]

lemma digitChar_of_isDigit (h : c.isDigit = true) :
    c.toNat - '0'.toNat < 10 ∧ (c.toNat - '0'.toNat).digitChar = c := by
  have hrange := isDigit_iff_toNat.1 h
  have hzero : '0'.toNat = 48 := rfl
  refine ⟨by omega, Char.toNat_inj.1 ?_⟩
  rw [Nat.toNat_digitChar_of_lt_ten (by omega)]
  omega

lemma toDigits_numeral_cons (hc : '1' ≤ c ∧ c ≤ '9') (hds : ∀ d ∈ ds, d.isDigit = true) :
    0 < Text.numeral (c :: ds) ∧ Nat.toDigits 10 (Text.numeral (c :: ds)) = c :: ds := by
  -- Numbers are read from the front and written from the end, so the last digit is taken off.
  induction ds using List.reverseRecOn with
  | nil =>
    have hrange := nonzero_iff_toNat.1 hc
    obtain ⟨hlt, hchar⟩ := digitChar_of_isDigit (isDigit_of_nonzero hc)
    have hzero : '0'.toNat = 48 := rfl
    have hnumeral : Text.numeral [c] = c.toNat - '0'.toNat := by simp [Text.numeral]
    rw [hnumeral, Nat.toDigits_of_lt_base hlt, hchar]
    exact ⟨by omega, rfl⟩
  | append_singleton ds d ih =>
    obtain ⟨hds, hd⟩ := List.forall_mem_append.1 hds
    obtain ⟨hlt, hchar⟩ := digitChar_of_isDigit (hd d List.mem_cons_self)
    obtain ⟨hpos, hdigits⟩ := ih hds
    rw [← List.cons_append, Instant.numeral_append, Nat.mul_comm]
    refine ⟨by omega, ?_⟩
    rw [← Nat.toDigits_append_toDigits (by decide) hpos hlt, hdigits, Nat.toDigits_of_lt_base hlt, hchar]

lemma toDigits_numeral (h : isNumeral cs = true) (hdigits : ∀ c ∈ cs, c.isDigit = true) :
    Nat.toDigits 10 (Text.numeral cs) = cs := by
  rcases isNumeral_iff.1 h with rfl | ⟨c, ds, rfl, hc, -⟩
  · rfl
  · exact (toDigits_numeral_cons hc (List.forall_mem_cons.1 hdigits).2).2

def parts (v : Version) : Parts :=
  ⟨(Nat.toDigits 10 v.major, Nat.toDigits 10 v.minor, Nat.toDigits 10 v.patch),
    v.pre.map String.toList, v.build.map String.toList⟩

lemma toList_text (v : Version) : v.text.toList = v.parts.text := by
  obtain ⟨major, minor, patch, pre, build⟩ := v
  cases pre <;> cases build <;>
    simp [Version.text, parts, Parts.text, Parts.coreText, Parts.preText, marked,
      Nat.toString_eq_repr, Nat.toList_repr, String.toList_intercalate]

namespace Parts

def MakeUp (p : Parts) (t : String) : Prop :=
  p.WellFormed ∧ t.toList = p.text

def numbers (p : Parts) : List (List Char) :=
  [p.core.1, p.core.2.1, p.core.2.2]

def Fit (p : Parts) : Prop :=
  ∀ cs ∈ p.numbers, IsWord64 cs

def version (p : Parts) : Version :=
  ⟨Text.numeral p.core.1, Text.numeral p.core.2.1, Text.numeral p.core.2.2,
    p.pre.map String.ofList, p.build.map String.ofList⟩

lemma makeUp_iff : p.MakeUp t ↔ parts? t.toList = some p :=
  parts?_eq_some.symm

lemma MakeUp.unique {q : Parts} (hp : p.MakeUp t) (hq : q.MakeUp t) : p = q :=
  Option.some.inj ((makeUp_iff.1 hp).symm.trans (makeUp_iff.1 hq))

lemma WellFormed.parts_version (h : p.WellFormed) (hfit : p.Fit) : p.version.parts = p := by
  obtain ⟨⟨a, b, c⟩, pre, build⟩ := p
  have ha := toDigits_numeral h.major (hfit a (by simp [numbers])).2.1
  have hb := toDigits_numeral h.minor (hfit b (by simp [numbers])).2.1
  have hc := toDigits_numeral h.patch (hfit c (by simp [numbers])).2.1
  simp [Version.parts, version, ha, hb, hc, Function.comp_def]

lemma MakeUp.text_version (h : p.MakeUp t) (hfit : p.Fit) : p.version.text = t := by
  rw [← String.toList_inj, toList_text, h.1.parts_version hfit, h.2]

end Parts

lemma parse_of_makeUp (h : p.MakeUp t) : parse t = (component p.core.1 >>= fun major =>
    component p.core.2.1 >>= fun minor => component p.core.2.2 >>= fun patch =>
    .ok ⟨major, minor, patch, p.pre.map String.ofList, p.build.map String.ofList⟩) := by
  simp only [parse, Parts.makeUp_iff.1 h]
  rfl

lemma parse_of_not_makeUp (h : ∀ p : Parts, ¬ p.MakeUp t) : parse t = .error (.malformed t) := by
  have hnone : parts? t.toList = none :=
    Option.eq_none_iff_forall_ne_some.2 fun p hp => h p (Parts.makeUp_iff.2 hp)
  simp [parse, hnone]

lemma parse_of_fit (h : p.MakeUp t) (hfit : p.Fit) : parse t = .ok p.version := by
  have hread : ∀ cs ∈ p.numbers, component cs = .ok (Text.numeral cs) :=
    fun cs hcs => component_eq_ok.2 ⟨hfit cs hcs, rfl⟩
  simp only [Parts.numbers, List.forall_mem_cons] at hread
  obtain ⟨ha, hb, hc, -⟩ := hread
  rw [parse_of_makeUp h, ha, Outcome.ok_bind, hb, Outcome.ok_bind, hc, Outcome.ok_bind]
  rfl

lemma parse_of_unfit (h : p.MakeUp t) {fit rest : List (List Char)}
    (hnumbers : p.numbers = fit ++ cs :: rest) (hfit : ∀ ds ∈ fit, IsWord64 ds) (hcs : ¬ IsWord64 cs) :
    parse t = .error (.overflow (String.ofList cs)) := by
  have herror := component_eq_error.2 ⟨hcs, rfl⟩
  have hread : ∀ ds ∈ fit, component ds = .ok (Text.numeral ds) :=
    fun ds hds => component_eq_ok.2 ⟨hfit ds hds, rfl⟩
  rw [parse_of_makeUp h]
  -- One case for each place that the number may have, of which there are three.
  rcases fit with _ | ⟨a, _ | ⟨b, _ | ⟨c, fit⟩⟩⟩ <;>
    simp only [Parts.numbers, List.nil_append, List.cons_append, List.cons.injEq] at hnumbers
  · rw [hnumbers.1, herror, Outcome.error_bind]
  · rw [hnumbers.1, hread a (by simp), Outcome.ok_bind, hnumbers.2.1, herror, Outcome.error_bind]
  · rw [hnumbers.1, hread a (by simp), Outcome.ok_bind, hnumbers.2.1, hread b (by simp),
      Outcome.ok_bind, hnumbers.2.2.1, herror, Outcome.error_bind]
  · simp at hnumbers

lemma exists_unfit (h : ¬ p.Fit) : ∃ fit cs rest, p.numbers = fit ++ cs :: rest ∧
    (∀ ds ∈ fit, IsWord64 ds) ∧ ¬ IsWord64 cs := by
  obtain ⟨cs, hcs⟩ : ∃ cs, p.numbers.find? (fun cs => ¬ IsWord64 cs) = some cs := by
    rw [← Option.isSome_iff_exists, List.find?_isSome]
    simpa [Parts.Fit] using h
  obtain ⟨hcs, fit, rest, hnumbers, hfit⟩ := List.find?_eq_some_iff_append.1 hcs
  exact ⟨fit, cs, rest, hnumbers, fun ds hds => by simpa using hfit ds hds, by simpa using hcs⟩

inductive Verdict (t : String) : Except VersionError Version → Prop
  | malformed : (∀ p : Parts, ¬ p.MakeUp t) → Verdict t (.error (.malformed t))
  | read {p : Parts} : p.MakeUp t → p.Fit → Verdict t (.ok p.version)
  | overflow {p : Parts} {fit rest : List (List Char)} {cs : List Char} : p.MakeUp t →
      p.numbers = fit ++ cs :: rest → (∀ ds ∈ fit, IsWord64 ds) → ¬ IsWord64 cs →
      Verdict t (.error (.overflow (String.ofList cs)))

lemma verdict_parse (t : String) : Verdict t (parse t) := by
  by_cases hp : ∃ p : Parts, p.MakeUp t
  · obtain ⟨p, hp⟩ := hp
    by_cases hfit : p.Fit
    · rw [parse_of_fit hp hfit]
      exact .read hp hfit
    · obtain ⟨fit, cs, rest, hnumbers, hfit, hcs⟩ := exists_unfit hfit
      rw [parse_of_unfit hp hnumbers hfit hcs]
      exact .overflow hp hnumbers hfit hcs
  · rw [parse_of_not_makeUp (not_exists.1 hp)]
    exact .malformed (not_exists.1 hp)

lemma parse_eq_ok : parse t = .ok v ↔ ∃ p : Parts, p.MakeUp t ∧ p.Fit ∧ p.version = v := by
  constructor
  · intro hv
    cases hv ▸ verdict_parse t with
    | read hp hfit => exact ⟨_, hp, hfit, rfl⟩
  · rintro ⟨p, hp, hfit, rfl⟩
    exact parse_of_fit hp hfit

lemma parse_eq_malformed {text : String} :
    parse t = .error (.malformed text) ↔ (∀ p : Parts, ¬ p.MakeUp t) ∧ text = t := by
  constructor
  · intro hv
    cases hv ▸ verdict_parse t with
    | malformed hnone => exact ⟨hnone, rfl⟩
  · rintro ⟨hnone, rfl⟩
    exact parse_of_not_makeUp hnone

lemma parse_eq_overflow {number : String} : parse t = .error (.overflow number) ↔
    ∃ p : Parts, p.MakeUp t ∧ ∃ fit cs rest, p.numbers = fit ++ cs :: rest ∧
      (∀ ds ∈ fit, IsWord64 ds) ∧ ¬ IsWord64 cs ∧ number = String.ofList cs := by
  constructor
  · intro hv
    cases hv ▸ verdict_parse t with
    | overflow hp hnumbers hfit hcs => exact ⟨_, hp, _, _, _, hnumbers, hfit, hcs, rfl⟩
  · rintro ⟨p, hp, fit, cs, rest, hnumbers, hfit, hcs, rfl⟩
    exact parse_of_unfit hp hnumbers hfit hcs

lemma text_of_parse (h : parse t = .ok v) : v.text = t := by
  obtain ⟨p, hp, hfit, rfl⟩ := parse_eq_ok.1 h
  exact hp.text_version hfit

lemma accepts_iff_makeUp : pattern.accepts t = true ↔ ∃ p : Parts, p.MakeUp t := by
  simp only [accepts_iff, Parts.makeUp_iff]

/-- The text of a version is read as that version, and no other text is. Texts that the pattern does
not accept are malformed. In all others the numbers are determined, and where they do not all fit in
64 bits, the first that does not is the one that the fault names. -/
theorem parse_canonical (t : String) :
    (∀ v, parse t = .ok v → v.text = t ∧ parse v.text = .ok v ∧ ∀ u, parse u = .ok v → u = t) ∧
    (Pattern.compile? source = some pattern ∧
      (pattern.accepts t = true ↔ ∃! p : Parts, p.MakeUp t)) ∧
    ((∃ v, parse t = .ok v) ↔ ∃ p : Parts, p.MakeUp t ∧ p.Fit) ∧
    (∀ text, parse t = .error (.malformed text) ↔ pattern.accepts t = false ∧ text = t) ∧
    ∀ number, parse t = .error (.overflow number) ↔ ∃ p : Parts, p.MakeUp t ∧
      ∃ fit cs rest, p.numbers = fit ++ cs :: rest ∧ (∀ ds ∈ fit, IsWord64 ds) ∧ ¬ IsWord64 cs ∧
        number = String.ofList cs := by
  refine ⟨fun v hv => ?_, ⟨compile?_source, ?_⟩, ?_, fun text => ?_, fun number => parse_eq_overflow⟩
  · have hvt := text_of_parse hv
    exact ⟨hvt, hvt.symm ▸ hv, fun u hu => (text_of_parse hu).symm.trans hvt⟩
  · rw [accepts_iff_makeUp]
    exact ⟨fun ⟨p, hp⟩ => ⟨p, hp, fun q hq => hq.unique hp⟩, fun ⟨p, hp, _⟩ => ⟨p, hp⟩⟩
  · simp only [parse_eq_ok]
    exact ⟨fun ⟨_, p, hp, hfit, _⟩ => ⟨p, hp, hfit⟩, fun ⟨p, hp, hfit⟩ => ⟨_, p, hp, hfit, rfl⟩⟩
  · rw [parse_eq_malformed, ← Bool.not_eq_true, accepts_iff_makeUp, not_exists]

namespace Sample

def beta : Version :=
  ⟨1, 2, 3, ["beta", "01"], some "build.5"⟩

theorem parse_canonical_beta :
    parse "1.2.3-beta.01+build.5" = .ok beta ∧ beta.text = "1.2.3-beta.01+build.5" ∧
      (∀ u, parse u = .ok beta → u = "1.2.3-beta.01+build.5") ∧
      parse "1\u0663.0.0" = .error (.overflow "1\u0663") := by
  have hparse : parse "1.2.3-beta.01+build.5" = .ok beta := by decide +kernel
  obtain ⟨htext, -, hunique⟩ := (parse_canonical "1.2.3-beta.01+build.5").1 beta hparse
  -- A digit of another script passes the pattern, but is no part of a number.
  have hthree : ('\u0663').isDigit = false := by decide
  have hunfit : ¬ IsWord64 ['1', '\u0663'] := fun h => by simpa [hthree] using h.2.1
  have hmake : (⟨(['1', '\u0663'], ['0'], ['0']), [], none⟩ : Parts).MakeUp "1\u0663.0.0" :=
    ⟨⟨by decide, by decide, by decide, nofun, nofun⟩, rfl⟩
  exact ⟨hparse, htext, hunique, ((parse_canonical "1\u0663.0.0").2.2.2.2 "1\u0663").2
    ⟨_, hmake, [], _, [['0'], ['0']], rfl, nofun, hunfit, rfl⟩⟩

end Sample

end TypedArtifacts.Version
