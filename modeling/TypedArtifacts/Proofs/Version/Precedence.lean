import Mathlib.Data.List.Lex
import Mathlib.Data.Prod.Lex
import Mathlib.Data.Sum.Order
import Mathlib.Data.String.Basic
import Mathlib.Order.WithBot
import Mathlib.Tactic
import TypedArtifacts.Proofs.Version
import TypedArtifacts.Proofs.Version.Canonical

/-! The versions of Semantic Versioning 2.0.0 and their order, next to those that are read here and the
order that they are given. They are the same as long as no number among the pre-release identifiers
has a zero in front or takes more than 64 bits. -/

namespace TypedArtifacts.Version

def IsNumber (cs : List Char) : Prop :=
  cs ≠ [] ∧ ∀ c ∈ cs, c.isDigit = true

def IsNumericIdentifier (cs : List Char) : Prop :=
  IsNumber cs ∧ (cs.head? = some '0' → cs = ['0'])

def IsAlphanumericIdentifier (cs : List Char) : Prop :=
  (∀ c ∈ cs, isIdentifierChar c = true) ∧ ∃ c ∈ cs, c.isDigit = false

instance (cs : List Char) : Decidable (IsNumber cs) :=
  decidable_of_iff ((!cs.isEmpty && cs.all Char.isDigit) = true) (by simp [IsNumber])

instance (cs : List Char) : Decidable (IsNumericIdentifier cs) :=
  inferInstanceAs (Decidable (_ ∧ _))

/-- The grammar of versions, where the numbers among the pre-release identifiers have a form of their
own. Semantic Versioning 2.0.0 takes numeric identifiers for them. -/
structure Parts.Follows (numeric : List Char → Prop) (p : Parts) : Prop where
  numbers : ∀ cs ∈ p.numbers, IsNumericIdentifier cs
  pre : ∀ id ∈ p.pre, IsAlphanumericIdentifier id ∨ numeric id
  build : ∀ build ∈ p.build, ∀ id ∈ build.splitOn '.', IsAlphanumericIdentifier id ∨ IsNumber id

def Conforms (numeric : List Char → Prop) (t : String) : Prop :=
  ∃ p : Parts, p.Follows numeric ∧ t.toList = p.text ∧ ∀ cs ∈ p.numbers, Text.numeral cs < 2 ^ 64

def Strict (v : Version) : Prop :=
  ∀ id ∈ v.pre, IsNumber id.toList → IsNumericIdentifier id.toList

instance (v : Version) : Decidable v.Strict :=
  inferInstanceAs (Decidable (∀ id ∈ v.pre, _))

def identify (s : String) : ℕ ⊕ₗ String :=
  if IsNumber s.toList then Sum.inlₗ (Text.numeral s.toList) else Sum.inrₗ s

def prereleaseRank (pre : List String) : WithTop (List (ℕ ⊕ₗ String)) :=
  if pre = [] then ⊤ else ↑(pre.map identify)

def rank (v : Version) : ℕ ×ₗ ℕ ×ₗ ℕ ×ₗ WithTop (List (ℕ ⊕ₗ String)) :=
  toLex (v.major, toLex (v.minor, toLex (v.patch, prereleaseRank v.pre)))

def Misordered (a b : String) : Prop :=
  ¬ IsWord64 a.toList ∧ ¬ IsWord64 b.toList ∧ ¬ (compare a b).Compares (identify a) (identify b)

def WellOrdered (as bs : List String) : Prop :=
  ∀ front a b rest rest', as = front ++ a :: rest → bs = front ++ b :: rest' → ¬ Misordered a b

section

variable {α β : Type} [LinearOrder α] [LinearOrder β] {a b : α} {c d : β} {as bs : List α}
  {o o' : Ordering}

lemma compares_toLex (h : o.Compares a b) :
    (o.then o').Compares (toLex (a, c)) (toLex (b, d)) ↔ (o = .eq → o'.Compares c d) := by
  cases o with
  | lt => simpa [Ordering.Compares] using Prod.Lex.toLex_lt_toLex.2 (.inl h)
  | gt => simpa [Ordering.Compares] using Prod.Lex.toLex_lt_toLex.2 (.inl h)
  | eq =>
    obtain rfl : a = b := h
    cases o' <;> simp [Ordering.Compares, Prod.Lex.toLex_lt_toLex]

lemma compares_cons (h : o.Compares a b) :
    (o.then o').Compares (a :: as) (b :: bs) ↔ (o = .eq → o'.Compares as bs) := by
  cases o with
  | lt => simpa [Ordering.Compares] using List.cons_lt_cons_iff.2 (.inl h)
  | gt => simpa [Ordering.Compares] using List.cons_lt_cons_iff.2 (.inl h)
  | eq =>
    obtain rfl : a = b := h
    cases o' <;> simp [Ordering.Compares]

lemma compares_cons_of_ne (h : a ≠ b) : o.Compares (a :: as) (b :: bs) ↔ o.Compares a b := by
  cases o <;> simp [Ordering.Compares, List.cons_lt_cons_iff, h, h.symm]

lemma compare_compares (a b : α) : (compare a b).Compares a b :=
  (compare_iff a b).1 rfl

end

variable {cs : List Char} {a b : String} {as bs : List String} {v w : Version} {t : String} {p : Parts}

lemma isWord64_iff : IsWord64 cs ↔ IsNumber cs ∧ Text.numeral cs < 2 ^ 64 :=
  and_assoc.symm

lemma isNumericIdentifier_iff :
    IsNumericIdentifier cs ↔ isNumeral cs = true ∧ ∀ c ∈ cs, c.isDigit = true := by
  rw [isNumeral_iff]
  constructor
  · rintro ⟨⟨hne, hdigits⟩, hzero⟩
    obtain ⟨c, ds, rfl⟩ := List.exists_cons_of_ne_nil hne
    obtain ⟨hc, hds⟩ := List.forall_mem_cons.1 hdigits
    refine ⟨or_iff_not_imp_left.2 fun h => ⟨c, ds, rfl, ?_, fun d hd => Text.isDigit_of_ascii (hds d hd)⟩,
      hdigits⟩
    have hrange := isDigit_iff_toNat.1 hc
    have hne : c.toNat ≠ 48 := fun heq => h (hzero (congrArg some (Char.toNat_inj.1 heq)))
    exact nonzero_iff_toNat.2 ⟨by omega, hrange.2⟩
  · rintro ⟨rfl | ⟨c, ds, rfl, hc, -⟩, hdigits⟩
    · exact ⟨⟨by decide, hdigits⟩, fun _ => rfl⟩
    · refine ⟨⟨List.cons_ne_nil _ _, hdigits⟩, fun hzero => ?_⟩
      obtain rfl := Option.some.inj hzero
      exact absurd hc.1 (by decide)

lemma compareIdentifier_word (ha : IsWord64 a.toList) (hb : IsWord64 b.toList) :
    compareIdentifier a b = compare (Text.numeral a.toList) (Text.numeral b.toList) := by
  simp only [compareIdentifier, word64?_eq_some.2 ⟨ha, rfl⟩, word64?_eq_some.2 ⟨hb, rfl⟩]

lemma identify_lt (ha : IsWord64 a.toList) (hb : ¬ IsWord64 b.toList) : identify a < identify b := by
  obtain ⟨hna, hlt⟩ := isWord64_iff.1 ha
  rw [identify, if_pos hna, identify]
  split_ifs with hnb
  · have hle : ¬ Text.numeral b.toList < 2 ^ 64 := fun h => hb (isWord64_iff.2 ⟨hnb, h⟩)
    exact Sum.Lex.inl_lt_inl_iff.2 (by omega)
  · exact Sum.Lex.inl_lt_inr _ _

lemma word64?_eq_none (h : ¬ IsWord64 cs) : word64? cs = none :=
  Option.eq_none_iff_forall_ne_some.2 fun _ hn => h (word64?_eq_some.1 hn).1

lemma compareIdentifier_compares :
    (compareIdentifier a b).Compares (identify a) (identify b) ↔ ¬ Misordered a b := by
  by_cases ha : IsWord64 a.toList <;> by_cases hb : IsWord64 b.toList
  · have hcompare := compare_compares (Text.numeral a.toList) (Text.numeral b.toList)
    rw [compareIdentifier_word ha hb, identify, if_pos (isWord64_iff.1 ha).1, identify,
      if_pos (isWord64_iff.1 hb).1]
    refine iff_of_true ?_ fun h => h.1 ha
    cases hc : compare (Text.numeral a.toList) (Text.numeral b.toList) <;> rw [hc] at hcompare
    · exact Sum.Lex.inl_lt_inl_iff.2 hcompare
    · exact congrArg _ hcompare
    · exact Sum.Lex.inl_lt_inl_iff.2 hcompare
  · have hread : compareIdentifier a b = .lt := by
      simp only [compareIdentifier, word64?_eq_some.2 ⟨ha, rfl⟩, word64?_eq_none hb]
    rw [hread]
    exact iff_of_true (identify_lt ha hb) fun h => h.1 ha
  · have hread : compareIdentifier a b = .gt := by
      simp only [compareIdentifier, word64?_eq_none ha, word64?_eq_some.2 ⟨hb, rfl⟩]
    rw [hread]
    exact iff_of_true (identify_lt hb ha) fun h => h.2.1 hb
  · have hread : compareIdentifier a b = compare a b := by
      simp only [compareIdentifier, word64?_eq_none ha, word64?_eq_none hb]
    rw [hread]
    exact ⟨fun h hm => hm.2.2 h, fun h => by_contra fun hc => h ⟨ha, hb, hc⟩⟩

lemma not_misordered (ha : ¬ IsNumber a.toList) (hb : ¬ IsNumber b.toList) : ¬ Misordered a b := by
  intro h
  have hcompare := compare_compares a b
  refine h.2.2 ?_
  rw [identify, if_neg ha, identify, if_neg hb]
  cases hc : compare a b <;> rw [hc] at hcompare
  · exact Sum.Lex.inr_lt_inr_iff.2 hcompare
  · exact congrArg _ hcompare
  · exact Sum.Lex.inr_lt_inr_iff.2 hcompare

lemma identify_injective (ha : IsNumber a.toList → IsNumericIdentifier a.toList)
    (hb : IsNumber b.toList → IsNumericIdentifier b.toList) (h : identify a = identify b) : a = b := by
  have hdigits : ∀ {s : String}, IsNumericIdentifier s.toList →
      Nat.toDigits 10 (Text.numeral s.toList) = s.toList := fun hs =>
    toDigits_numeral (isNumericIdentifier_iff.1 hs).1 (isNumericIdentifier_iff.1 hs).2
  unfold identify at h
  split_ifs at h with hna hnb hnb
  · rw [← String.toList_inj, ← hdigits (ha hna), ← hdigits (hb hnb), Sum.inl.inj (toLex.injective h)]
  · cases toLex.injective h
  · cases toLex.injective h
  · exact Sum.inr.inj (toLex.injective h)

lemma misordered_irrefl (a : String) : ¬ Misordered a a := by
  intro h
  have hself : compare a a = .eq := Std.ReflCmp.compare_self
  exact h.2.2 (hself ▸ rfl)

lemma compareIdentifier_ne_eq (ha : IsNumber a.toList → IsNumericIdentifier a.toList)
    (hb : IsNumber b.toList → IsNumericIdentifier b.toList) (hne : a ≠ b) :
    compareIdentifier a b ≠ .eq := by
  intro h
  rcases compareIdentifier_eq_eq.1 h with rfl | ⟨n, hna, hnb⟩
  · exact hne rfl
  · obtain ⟨hwa, rfl⟩ := word64?_eq_some.1 hna
    obtain ⟨hwb, hnumeral⟩ := word64?_eq_some.1 hnb
    refine hne (identify_injective ha hb ?_)
    rw [identify, if_pos (isWord64_iff.1 hwa).1, identify, if_pos (isWord64_iff.1 hwb).1, hnumeral]

lemma compareIdentifiers_compares (h : ∀ a ∈ as, ∀ b ∈ bs, ¬ Misordered a b) :
    (compareIdentifiers as bs).Compares (as.map identify) (bs.map identify) := by
  induction as generalizing bs with
  | nil =>
    cases bs with
    | nil => exact rfl
    | cons b bs => exact List.nil_lt_cons _ _
  | cons a as ih =>
    cases bs with
    | nil => exact List.nil_lt_cons _ _
    | cons b bs =>
      have hhead := h a List.mem_cons_self b List.mem_cons_self
      refine (compares_cons (compareIdentifier_compares.2 hhead)).2 fun _ => ih fun a' ha' b' hb' => ?_
      exact h a' (List.mem_cons_of_mem _ ha') b' (List.mem_cons_of_mem _ hb')

lemma wellOrdered_cons : WellOrdered (a :: as) (b :: bs) ↔
    ¬ Misordered a b ∧ (a = b → WellOrdered as bs) := by
  constructor
  · intro h
    refine ⟨h [] a b as bs rfl rfl, ?_⟩
    rintro rfl front a' b' rest rest' has hbs
    exact h (a :: front) a' b' rest rest' (congrArg _ has) (congrArg _ hbs)
  · rintro ⟨hhead, htail⟩ front a' b' rest rest' has hbs
    cases front with
    | nil =>
      obtain rfl := (List.cons.inj has).1
      obtain rfl := (List.cons.inj hbs).1
      exact hhead
    | cons x front =>
      obtain ⟨rfl, hleft⟩ := List.cons.inj has
      obtain ⟨rfl, hright⟩ := List.cons.inj hbs
      exact htail rfl front a' b' rest rest' hleft hright

lemma compareIdentifiers_compares_iff
    (has : ∀ id ∈ as, IsNumber id.toList → IsNumericIdentifier id.toList)
    (hbs : ∀ id ∈ bs, IsNumber id.toList → IsNumericIdentifier id.toList) :
    (compareIdentifiers as bs).Compares (as.map identify) (bs.map identify) ↔ WellOrdered as bs := by
  induction as generalizing bs with
  | nil => exact iff_of_true (compareIdentifiers_compares nofun) (by simp [WellOrdered])
  | cons a as ih =>
    cases bs with
    | nil => exact iff_of_true (compareIdentifiers_compares fun _ _ => nofun) (by simp [WellOrdered])
    | cons b bs =>
      obtain ⟨ha, has⟩ := List.forall_mem_cons.1 has
      obtain ⟨hb, htail⟩ := List.forall_mem_cons.1 hbs
      rw [wellOrdered_cons, compareIdentifiers, List.map_cons, List.map_cons]
      by_cases hab : a = b
      · -- The same text is level in both orders, and the next identifiers decide.
        subst hab
        have hself : compareIdentifier a a = .eq := Std.ReflCmp.compare_self
        rw [compares_cons (compareIdentifier_compares.2 (misordered_irrefl a)), ih has htail]
        exact ⟨fun h => ⟨misordered_irrefl a, fun _ => h hself⟩, fun h _ => h.2 rfl⟩
      · -- Different texts are level in neither, as no zeros stand in front.
        have hthen : (compareIdentifier a b).then (compareIdentifiers as bs) = compareIdentifier a b := by
          cases h : compareIdentifier a b with
          | eq => exact absurd h (compareIdentifier_ne_eq ha hb hab)
          | lt => rfl
          | gt => rfl
        rw [hthen, compares_cons_of_ne fun h => hab (identify_injective ha hb h),
          compareIdentifier_compares]
        exact ⟨fun h => ⟨h, fun heq => absurd heq hab⟩, fun h => h.1⟩

lemma comparePre_compares : (comparePre as bs).Compares (prereleaseRank as) (prereleaseRank bs) ↔
    (as ≠ [] → bs ≠ [] → (compareIdentifiers as bs).Compares (as.map identify) (bs.map identify)) := by
  cases as with
  | nil => cases bs with
    | nil => exact iff_of_true rfl fun h => absurd rfl h
    | cons b bs => exact iff_of_true (WithTop.coe_lt_top _) fun h => absurd rfl h
  | cons a as => cases bs with
    | nil => exact iff_of_true (WithTop.coe_lt_top _) fun _ h => absurd rfl h
    | cons b bs =>
      rw [comparePre, prereleaseRank, if_neg (List.cons_ne_nil _ _), prereleaseRank,
        if_neg (List.cons_ne_nil _ _)]
      cases compareIdentifiers (a :: as) (b :: bs) <;> simp [Ordering.Compares]

lemma precedence_compares : (precedence v w).Compares v.rank w.rank ↔
    (v.major = w.major → v.minor = w.minor → v.patch = w.patch →
      (comparePre v.pre w.pre).Compares (prereleaseRank v.pre) (prereleaseRank w.pre)) := by
  rw [precedence, Ordering.then_assoc, Ordering.then_assoc, rank, rank,
    compares_toLex (compare_compares _ _), compares_toLex (compare_compares _ _),
    compares_toLex (compare_compares _ _)]
  simp only [Nat.compare_eq_eq]

lemma wellOrdered_nil_left : WellOrdered [] bs := by
  intro front a b rest rest' has
  simp at has

lemma wellOrdered_nil_right : WellOrdered as [] := by
  intro front a b rest rest' _ hbs
  simp at hbs

lemma precedence_of_fit (hv : ∀ id ∈ v.pre, IsNumber id.toList → IsWord64 id.toList)
    (hw : ∀ id ∈ w.pre, IsNumber id.toList → IsWord64 id.toList) :
    (precedence v w).Compares v.rank w.rank := by
  refine precedence_compares.2 fun _ _ _ => comparePre_compares.2 fun _ _ =>
    compareIdentifiers_compares fun a ha b hb hm => ?_
  exact not_misordered (fun h => hm.1 (hv a ha h)) (fun h => hm.2.1 (hw b hb h)) hm

lemma precedence_of_strict (hv : v.Strict) (hw : w.Strict) :
    (precedence v w).Compares v.rank w.rank ↔
      (v.major = w.major → v.minor = w.minor → v.patch = w.patch → WellOrdered v.pre w.pre) := by
  rw [precedence_compares, comparePre_compares, compareIdentifiers_compares_iff hv hw]
  refine ⟨fun h hmajor hminor hpatch => ?_, fun h hmajor hminor hpatch _ _ => h hmajor hminor hpatch⟩
  by_cases hvnil : v.pre = []
  · exact hvnil ▸ wellOrdered_nil_left
  · by_cases hwnil : w.pre = []
    · exact hwnil ▸ wellOrdered_nil_right
    · exact h hmajor hminor hpatch hvnil hwnil

lemma isIdentifier_iff_or : isIdentifier cs = true ↔ IsAlphanumericIdentifier cs ∨ IsNumber cs := by
  rw [isIdentifier_iff]
  constructor
  · rintro ⟨hne, hchars⟩
    by_cases hdigits : ∀ c ∈ cs, c.isDigit = true
    · exact .inr ⟨hne, hdigits⟩
    · exact .inl ⟨hchars, by simpa using hdigits⟩
  · rintro (⟨hchars, c, hc, -⟩ | ⟨hne, hdigits⟩)
    · exact ⟨List.ne_nil_of_mem hc, hchars⟩
    · exact ⟨hne, fun c hc => by simp [isIdentifierChar, Char.isAlphanum, hdigits c hc]⟩

lemma numeral_fits_iff : isNumeral cs = true ∧ IsWord64 cs ↔
    IsNumericIdentifier cs ∧ Text.numeral cs < 2 ^ 64 := by
  rw [isNumericIdentifier_iff, and_assoc]
  refine and_congr_right fun h => ⟨fun hword => hword.2, fun hdigits => ⟨?_, hdigits⟩⟩
  rintro rfl
  cases h

lemma wellFormed_and_fit_iff : p.WellFormed ∧ p.Fit ↔
    p.Follows IsNumber ∧ ∀ cs ∈ p.numbers, Text.numeral cs < 2 ^ 64 := by
  have hnumbers : (∀ cs ∈ p.numbers, isNumeral cs = true) ∧ p.Fit ↔
      (∀ cs ∈ p.numbers, IsNumericIdentifier cs) ∧ ∀ cs ∈ p.numbers, Text.numeral cs < 2 ^ 64 := by
    simp only [Parts.Fit, ← forall₂_and, numeral_fits_iff]
  constructor
  · rintro ⟨h, hfit⟩
    obtain ⟨hnumeric, hsize⟩ := hnumbers.1 ⟨by simp [Parts.numbers, h.major, h.minor, h.patch], hfit⟩
    exact ⟨⟨hnumeric, fun id hid => isIdentifier_iff_or.1 (h.pre id hid),
      fun build hbuild id hid => isIdentifier_iff_or.1 (h.build build hbuild id hid)⟩, hsize⟩
  · rintro ⟨h, hsize⟩
    obtain ⟨hnumerals, hfit⟩ := hnumbers.2 ⟨h.numbers, hsize⟩
    simp only [Parts.numbers, List.forall_mem_cons] at hnumerals
    exact ⟨⟨hnumerals.1, hnumerals.2.1, hnumerals.2.2.1,
      fun id hid => isIdentifier_iff_or.2 (h.pre id hid),
      fun build hbuild id hid => isIdentifier_iff_or.2 (h.build build hbuild id hid)⟩, hfit⟩

lemma IsAlphanumericIdentifier.not_isNumber (h : IsAlphanumericIdentifier cs) : ¬ IsNumber cs := by
  obtain ⟨-, c, hc, hdigit⟩ := h
  intro hnumber
  rw [hnumber.2 c hc] at hdigit
  cases hdigit

lemma follows_isNumericIdentifier : p.Follows IsNumericIdentifier ↔
    p.Follows IsNumber ∧ ∀ id ∈ p.pre, IsNumber id → IsNumericIdentifier id := by
  constructor
  · intro h
    refine ⟨⟨h.numbers, fun id hid => (h.pre id hid).imp_right And.left, h.build⟩, fun id hid hnumber => ?_⟩
    exact (h.pre id hid).resolve_left fun halpha => halpha.not_isNumber hnumber
  · rintro ⟨h, hstrict⟩
    exact ⟨h.numbers, fun id hid => (h.pre id hid).imp_right (hstrict id hid), h.build⟩

lemma parse?_eq_some : parse? t = some v ↔ parse t = .ok v :=
  Outcome.toOption_eq_some

lemma isSome_parse? : (parse? t).isSome = true ↔ Conforms IsNumber t := by
  simp only [Option.isSome_iff_exists, parse?_eq_some, parse_eq_ok]
  constructor
  · rintro ⟨_, p, hp, hfit, rfl⟩
    obtain ⟨hfollows, hsize⟩ := wellFormed_and_fit_iff.1 ⟨hp.1, hfit⟩
    exact ⟨p, hfollows, hp.2, hsize⟩
  · rintro ⟨p, hfollows, htext, hsize⟩
    obtain ⟨hwell, hfit⟩ := wellFormed_and_fit_iff.2 ⟨hfollows, hsize⟩
    exact ⟨_, p, ⟨hwell, htext⟩, hfit, rfl⟩

lemma strict_version : p.version.Strict ↔ ∀ id ∈ p.pre, IsNumber id → IsNumericIdentifier id := by
  simp [Strict, Parts.version]

lemma conforms_iff_strict : Conforms IsNumericIdentifier t ↔ ∃ v, parse? t = some v ∧ v.Strict := by
  simp only [parse?_eq_some, parse_eq_ok]
  constructor
  · rintro ⟨p, hfollows, htext, hsize⟩
    obtain ⟨hfollows, hstrict⟩ := follows_isNumericIdentifier.1 hfollows
    obtain ⟨hwell, hfit⟩ := wellFormed_and_fit_iff.2 ⟨hfollows, hsize⟩
    exact ⟨_, ⟨p, ⟨hwell, htext⟩, hfit, rfl⟩, strict_version.2 hstrict⟩
  · rintro ⟨_, ⟨p, hp, hfit, rfl⟩, hstrict⟩
    obtain ⟨hfollows, hsize⟩ := wellFormed_and_fit_iff.1 ⟨hp.1, hfit⟩
    exact ⟨p, follows_isNumericIdentifier.2 ⟨hfollows, strict_version.1 hstrict⟩, hp.2, hsize⟩

/-- The versions of Semantic Versioning 2.0.0 are those that are read and have no number with a zero in
front among their pre-release identifiers. Their order is that of Semantic Versioning exactly if the
first identifiers that differ are well-ordered, which numbers of 64 bits always are. -/
theorem semantic_versions (t : String) (v w : Version) :
    ((parse? t).isSome = true ↔ Conforms IsNumber t) ∧
    (Conforms IsNumericIdentifier t ↔ ∃ u, parse? t = some u ∧ u.Strict) ∧
    ((∀ id ∈ v.pre ++ w.pre, IsNumber id.toList → IsWord64 id.toList) →
      (precedence v w).Compares v.rank w.rank) ∧
    (v.Strict → w.Strict → ((precedence v w).Compares v.rank w.rank ↔
      (v.major = w.major → v.minor = w.minor → v.patch = w.patch → WellOrdered v.pre w.pre))) := by
  refine ⟨isSome_parse?, conforms_iff_strict, fun h => ?_, precedence_of_strict⟩
  obtain ⟨hv, hw⟩ := List.forall_mem_append.1 h
  exact precedence_of_fit hv hw

namespace Sample

def ninth : Version :=
  ⟨1, 0, 0, ["rc", "9"], none⟩

def tenth : Version :=
  ⟨1, 0, 0, ["rc", "10"], none⟩

theorem semantic_versions_candidates :
    parse? "1.0.0-rc.9" = some ninth ∧ Conforms IsNumericIdentifier "1.0.0-rc.9" ∧
      ninth.rank < tenth.rank ∧ WellOrdered ninth.pre tenth.pre := by
  obtain ⟨-, hconforms, hfit, hstrict⟩ := semantic_versions "1.0.0-rc.9" ninth tenth
  have hparse : parse? "1.0.0-rc.9" = some ninth := by decide +kernel
  have hlt : precedence ninth tenth = .lt := by decide +kernel
  have hninth : ninth.Strict := by decide +kernel
  have hrank : (precedence ninth tenth).Compares ninth.rank tenth.rank := hfit (by decide +kernel)
  refine ⟨hparse, hconforms.2 ⟨ninth, hparse, hninth⟩, ?_, ?_⟩
  · rwa [hlt] at hrank
  · exact (hstrict hninth (by decide +kernel)).1 hrank rfl rfl rfl

def nines : Version :=
  ⟨1, 0, 0, ["99999999999999999999"], none⟩

def power : Version :=
  ⟨1, 0, 0, ["100000000000000000000"], none⟩

lemma nines_lt_power : nines.rank < power.rank := by
  have hnines : identify "99999999999999999999" = Sum.inlₗ 99999999999999999999 := by decide +kernel
  have hpower : identify "100000000000000000000" = Sum.inlₗ 100000000000000000000 := by decide +kernel
  have hhead : Ordering.lt.Compares (identify "99999999999999999999")
      (identify "100000000000000000000") := by
    rw [hnines, hpower]
    exact Sum.Lex.inl_lt_inl_iff.2 (by norm_num)
  have hpre : prereleaseRank nines.pre < prereleaseRank power.pre :=
    WithTop.coe_lt_coe.2 (List.cons_lt_cons_iff.2 (.inl hhead))
  simpa [rank, nines, power, Prod.Lex.toLex_lt_toLex] using hpre

/-- A number with a zero in front is read, though it is not an identifier, and of two numbers that take
more than 64 bits the greater may come first. -/
theorem numbers_misread :
    ((parse? "1.0.0-01").isSome = true ∧ ¬ Conforms IsNumericIdentifier "1.0.0-01") ∧
    (parse? "1.0.0-99999999999999999999" = some nines ∧
      parse? "1.0.0-100000000000000000000" = some power ∧
      precedence nines power = .gt ∧ nines.rank < power.rank) ∧
    ¬ (∀ t, (parse? t).isSome = true ↔ Conforms IsNumericIdentifier t) ∧
    ¬ ∀ t u v w, parse? t = some v → parse? u = some w → (precedence v w).Compares v.rank w.rank := by
  have hread : parse? "1.0.0-01" = some ⟨1, 0, 0, ["01"], none⟩ := by decide +kernel
  have hconforms : ¬ Conforms IsNumericIdentifier "1.0.0-01" := by
    rw [conforms_iff_strict]
    rintro ⟨v, hv, hstrict⟩
    obtain rfl := Option.some.inj (hread.symm.trans hv)
    revert hstrict
    decide +kernel
  have hnines : parse? "1.0.0-99999999999999999999" = some nines := by decide +kernel
  have hpower : parse? "1.0.0-100000000000000000000" = some power := by decide +kernel
  have hgt : precedence nines power = .gt := by decide +kernel
  refine ⟨⟨hread ▸ rfl, hconforms⟩, ⟨hnines, hpower, hgt, nines_lt_power⟩, fun h => ?_, fun h => ?_⟩
  · exact hconforms ((h _).1 (hread ▸ rfl))
  · have hcompares := h _ _ nines power hnines hpower
    rw [hgt] at hcompares
    exact lt_asymm nines_lt_power hcompares

end Sample

end TypedArtifacts.Version
