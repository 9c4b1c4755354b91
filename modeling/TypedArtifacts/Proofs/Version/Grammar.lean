import Mathlib.Data.List.TakeWhile
import TypedArtifacts.Pattern
import TypedArtifacts.Proofs.Pattern.Reads
import TypedArtifacts.Version

/-! The texts that are split into the parts of a version: three numerals, pre-release identifiers and
build data. There is one way to split such a text, and they are the texts that the pattern for
versions accepts. -/

namespace TypedArtifacts.Version

def Dotted (cs : List Char) : Prop :=
  ∀ id ∈ cs.splitOn '.', isIdentifier id = true

def marked (mark : Char) : Option (List Char) → List Char
  | none => []
  | some cs => mark :: cs

namespace Parts

def coreText (p : Parts) : List Char :=
  p.core.1 ++ '.' :: (p.core.2.1 ++ '.' :: p.core.2.2)

def preText (p : Parts) : Option (List Char) :=
  if p.pre = [] then none else some (['.'].intercalate p.pre)

def text (p : Parts) : List Char :=
  p.coreText ++ marked '-' p.preText ++ marked '+' p.build

structure WellFormed (p : Parts) : Prop where
  major : isNumeral p.core.1 = true
  minor : isNumeral p.core.2.1 = true
  patch : isNumeral p.core.2.2 = true
  pre : ∀ id ∈ p.pre, isIdentifier id = true
  build : ∀ build ∈ p.build, Dotted build

end Parts

variable {cs front : List Char} {rest : Option (List Char)} {mark c : Char} {p : Parts}

lemma isNumeral_iff : isNumeral cs = true ↔ cs = ['0'] ∨
    ∃ c ds, cs = c :: ds ∧ ('1' ≤ c ∧ c ≤ '9') ∧ ∀ d ∈ ds, Text.isDigit d = true := by
  cases cs with
  | nil => simp [isNumeral]
  | cons c ds => simp [isNumeral]

lemma isDigit_iff_toNat : c.isDigit = true ↔ 48 ≤ c.toNat ∧ c.toNat ≤ 57 := by
  simp [Char.isDigit, UInt32.le_iff_toNat_le]

lemma nonzero_iff_toNat : '1' ≤ c ∧ c ≤ '9' ↔ 49 ≤ c.toNat ∧ c.toNat ≤ 57 :=
  and_congr UInt32.le_iff_toNat_le UInt32.le_iff_toNat_le

lemma isDigit_of_nonzero (h : '1' ≤ c ∧ c ≤ '9') : c.isDigit = true := by
  obtain ⟨hlo, hhi⟩ := nonzero_iff_toNat.1 h
  exact isDigit_iff_toNat.2 ⟨by omega, hhi⟩

lemma isDigit_of_isNumeral (h : isNumeral cs = true) : ∀ c ∈ cs, Text.isDigit c = true := by
  rcases isNumeral_iff.1 h with rfl | ⟨c, ds, rfl, hc, hds⟩
  · exact List.forall_mem_singleton.2 (Text.isDigit_of_ascii rfl)
  · exact List.forall_mem_cons.2 ⟨Text.isDigit_of_ascii (isDigit_of_nonzero hc), hds⟩

lemma notMem_of_isNumeral (h : isNumeral cs = true) (hmark : Text.isDigit mark = false) :
    mark ∉ cs := by
  intro hm
  rw [isDigit_of_isNumeral h mark hm] at hmark
  cases hmark

lemma isIdentifier_iff :
    isIdentifier cs = true ↔ cs ≠ [] ∧ ∀ c ∈ cs, isIdentifierChar c = true := by
  simp [isIdentifier]

lemma notMem_of_isIdentifier (h : isIdentifier cs = true) (hmark : isIdentifierChar mark = false) :
    mark ∉ cs := by
  intro hm
  rw [(isIdentifier_iff.1 h).2 mark hm] at hmark
  cases hmark

lemma marked_tail? : marked mark (cs.dropWhile (· ≠ mark)).tail? = cs.dropWhile (· ≠ mark) := by
  cases hrest : cs.dropWhile (· ≠ mark) with
  | nil => rfl
  | cons c rest =>
    have hne : cs.dropWhile (· ≠ mark) ≠ [] := hrest ▸ List.cons_ne_nil c rest
    have hc := List.head_dropWhile_not (· ≠ mark) hne
    simp only [hrest, List.head_cons, decide_eq_false_iff_not, not_not] at hc
    rw [hc]
    rfl

lemma cut_eq : cut mark cs = (front, rest) ↔ cs = front ++ marked mark rest ∧ mark ∉ front := by
  simp only [cut, Prod.mk.injEq]
  constructor
  · rintro ⟨rfl, rfl⟩
    rw [marked_tail?, List.takeWhile_append_dropWhile]
    exact ⟨rfl, fun hm => by simpa using List.mem_takeWhile_imp hm⟩
  · rintro ⟨rfl, hfront⟩
    have hall : ∀ c ∈ front, decide (c ≠ mark) = true :=
      fun c hc => decide_eq_true fun heq => hfront (heq ▸ hc)
    rw [List.takeWhile_append_of_pos hall, List.dropWhile_append_of_pos hall]
    cases rest <;> simp [marked]

lemma identifiers?_eq_some {ids : List (List Char)} :
    identifiers? cs = some ids ↔ Dotted cs ∧ cs.splitOn '.' = ids := by
  simp [identifiers?, Dotted]

lemma splitOn_intercalate_of_identifiers {ids : List (List Char)}
    (h : ∀ id ∈ ids, isIdentifier id = true) (hne : ids ≠ []) :
    (['.'].intercalate ids).splitOn '.' = ids :=
  List.splitOn_intercalate _ (fun id hid => notMem_of_isIdentifier (h id hid) rfl) hne

lemma intercalate_cons (id : List Char) (ids : List (List Char)) :
    ['.'].intercalate (id :: ids) = id ++ (ids.map ('.' :: ·)).flatten := by
  induction ids generalizing id with
  | nil => simp
  | cons next ids ih => simp [List.intercalate_cons_cons, ih]

lemma notMem_intercalate {ids : List (List Char)} (h : ∀ id ∈ ids, mark ∉ id) (hdot : mark ≠ '.') :
    mark ∉ ['.'].intercalate ids := by
  cases ids with
  | nil => simp
  | cons id ids =>
    obtain ⟨hid, hids⟩ := List.forall_mem_cons.1 h
    rw [intercalate_cons, List.mem_append, List.mem_flatten, not_or]
    refine ⟨hid, ?_⟩
    rintro ⟨_, hw, hm⟩
    obtain ⟨id', hid', rfl⟩ := List.mem_map.1 hw
    exact (List.mem_cons.1 hm).elim hdot (hids id' hid')

lemma dotted_iff : Dotted cs ↔ ∃ ids ≠ [], (∀ id ∈ ids, isIdentifier id = true) ∧
    cs = ['.'].intercalate ids := by
  constructor
  · exact fun h => ⟨cs.splitOn '.', List.splitOn_ne_nil _ _, h, (List.intercalate_splitOn '.').symm⟩
  · rintro ⟨ids, hne, hids, rfl⟩
    rwa [Dotted, splitOn_intercalate_of_identifiers hids hne]

namespace Parts

lemma preText_nil (core build) : preText ⟨core, [], build⟩ = none := rfl

lemma preText_splitOn (core build) : preText ⟨core, cs.splitOn '.', build⟩ = some cs := by
  rw [preText, if_neg (List.splitOn_ne_nil _ _), List.intercalate_splitOn]

namespace WellFormed

lemma dotted_preText (h : p.WellFormed) : ∀ pre ∈ p.preText, Dotted pre := by
  intro pre hpre
  unfold preText at hpre
  split_ifs at hpre with hnil
  · cases hpre
  · obtain rfl := Option.some.inj hpre
    exact dotted_iff.2 ⟨p.pre, hnil, h.pre, rfl⟩

lemma notMem_coreText (h : p.WellFormed) (hmark : Text.isDigit mark = false) (hdot : mark ≠ '.') :
    mark ∉ p.coreText := by
  simp [coreText, hdot, notMem_of_isNumeral h.major hmark, notMem_of_isNumeral h.minor hmark,
    notMem_of_isNumeral h.patch hmark]

lemma splitOn_coreText (h : p.WellFormed) :
    p.coreText.splitOn '.' = [p.core.1, p.core.2.1, p.core.2.2] := by
  have hdot : Text.isDigit '.' = false := by decide
  rw [coreText, List.splitOn_append_cons_self_of_not_mem (notMem_of_isNumeral h.major hdot),
    List.splitOn_append_cons_self_of_not_mem (notMem_of_isNumeral h.minor hdot),
    List.splitOn_eq_singleton (notMem_of_isNumeral h.patch hdot)]

lemma cut_build (h : p.WellFormed) :
    cut '+' p.text = (p.coreText ++ marked '-' p.preText, p.build) := by
  refine cut_eq.2 ⟨rfl, ?_⟩
  rw [List.mem_append, not_or]
  refine ⟨h.notMem_coreText (by decide) (by decide), ?_⟩
  unfold preText
  split_ifs
  · exact List.not_mem_nil
  · rw [marked, List.mem_cons, not_or]
    exact ⟨by decide, notMem_intercalate (fun id hid => notMem_of_isIdentifier (h.pre id hid) rfl)
      (by decide)⟩

lemma cut_pre (h : p.WellFormed) :
    cut '-' (p.coreText ++ marked '-' p.preText) = (p.coreText, p.preText) :=
  cut_eq.2 ⟨rfl, h.notMem_coreText (by decide) (by decide)⟩

end WellFormed

end Parts

lemma text_of_parts? (h : parts? cs = some p) : p.WellFormed ∧ cs = p.text := by
  rcases hbuild : cut '+' cs with ⟨front, build⟩
  rcases hpre : cut '-' front with ⟨core, pre⟩
  obtain ⟨rfl, -⟩ := cut_eq.1 hbuild
  obtain ⟨rfl, -⟩ := cut_eq.1 hpre
  simp only [parts?, hbuild, hpre] at h
  split at h
  · rename_i a b c hcore
    have htext : core = a ++ '.' :: (b ++ '.' :: c) := by
      have hjoin : ['.'].intercalate (core.splitOn '.') = core := List.intercalate_splitOn '.'
      rw [← hjoin, hcore]
      simp
    split_ifs at h with hnumerals
    · cases h
    · simp only [Bool.not_eq_true', Bool.not_eq_false, Bool.and_eq_true] at hnumerals
      obtain ⟨⟨ha, hb⟩, hc⟩ := hnumerals
      -- Pre-release identifiers and build data may each be there or not.
      cases pre <;> cases build <;>
        simp only [Option.bind_eq_bind, Option.bind_some, Option.pure_def,
          Option.bind_eq_some_iff, identifiers?_eq_some, Option.some.injEq] at h
      · subst h
        exact ⟨⟨ha, hb, hc, nofun, nofun⟩, by rw [htext]; rfl⟩
      · obtain ⟨_, ⟨hdotted, rfl⟩, rfl⟩ := h
        exact ⟨⟨ha, hb, hc, nofun, by simpa using hdotted⟩, by rw [htext]; rfl⟩
      · obtain ⟨_, ⟨hdotted, rfl⟩, rfl⟩ := h
        exact ⟨⟨ha, hb, hc, hdotted, nofun⟩, by rw [htext, Parts.text, Parts.preText_splitOn]; rfl⟩
      · obtain ⟨_, ⟨hdotted, rfl⟩, _, ⟨hdotted', rfl⟩, rfl⟩ := h
        exact ⟨⟨ha, hb, hc, hdotted, by simpa using hdotted'⟩,
          by rw [htext, Parts.text, Parts.preText_splitOn]; rfl⟩
  · cases h

lemma parts?_text (h : p.WellFormed) : parts? p.text = some p := by
  simp only [parts?, h.cut_build, h.cut_pre, h.splitOn_coreText, h.major, h.minor, h.patch,
    Bool.and_self, Bool.not_true, Bool.false_eq_true, if_false]
  obtain ⟨core, pre, build⟩ := p
  have hread : build = none ∨ ∃ data, build = some data ∧
      identifiers? data = some (data.splitOn '.') := by
    cases build with
    | none => exact .inl rfl
    | some data => exact .inr ⟨data, rfl, identifiers?_eq_some.2 ⟨h.build data rfl, rfl⟩⟩
  by_cases hnil : pre = []
  · subst hnil
    rcases hread with rfl | ⟨data, rfl, hdata⟩
    · rfl
    · simp [Parts.preText_nil, hdata]
  · have hids : identifiers? (['.'].intercalate pre) = some pre :=
      identifiers?_eq_some.2 ⟨dotted_iff.2 ⟨pre, hnil, h.pre, rfl⟩,
        splitOn_intercalate_of_identifiers h.pre hnil⟩
    rcases hread with rfl | ⟨data, rfl, hdata⟩
    · simp [Parts.preText, hnil, hids]
    · simp [Parts.preText, hnil, hids, hdata]

lemma parts?_eq_some : parts? cs = some p ↔ p.WellFormed ∧ cs = p.text :=
  ⟨text_of_parts?, fun ⟨h, hcs⟩ => hcs ▸ parts?_text h⟩

section

open Pattern

def source : String :=
  "^(0|[1-9]\\d*)\\.(0|[1-9]\\d*)\\.(0|[1-9]\\d*)" ++
    "(?:-([0-9A-Za-z-]+(?:\\.[0-9A-Za-z-]+)*))?(?:\\+([0-9A-Za-z-]+(?:\\.[0-9A-Za-z-]+)*))?$"

def numeralTree : Tree :=
  .alt (.set (.single '0')) (.seq (.set (.union .none (.range '1' '9'))) (.star (.set .digit)))

def identifierSet : CharSet :=
  .union (.union (.union (.union .none (.range '0' '9')) (.range 'A' 'Z')) (.range 'a' 'z')) (.single '-')

def identifierTree : Tree :=
  .seq (.set identifierSet) (.star (.set identifierSet))

def dottedTree : Tree :=
  .seq identifierTree (.star (.seq (.set (.single '.')) identifierTree))

def markedTree (mark : Char) : Tree :=
  .optional (.seq (.set (.single mark)) dottedTree)

def coreTree : Tree :=
  .seq (.seq (.seq (.seq (.seq (.assertion .textStart) numeralTree) (.set (.single '.'))) numeralTree)
    (.set (.single '.'))) numeralTree

def pattern : Pattern :=
  ⟨source, .seq (.seq (.seq coreTree (markedTree '-')) (markedTree '+')) (.assertion .textEnd)⟩

lemma compile?_source : Pattern.compile? source = some pattern := by
  decide +kernel

lemma reads_numeralTree : numeralTree.Reads (isNumeral · = true) := by
  refine ((Tree.reads_single '0').alt ((Tree.reads_set _).seq (Tree.reads_many .digit))).congr
    fun cs => ?_
  rw [isNumeral_iff]
  refine or_congr_right ⟨?_, ?_⟩
  · rintro ⟨_, ds, rfl, ⟨c, rfl, hc⟩, hds⟩
    exact ⟨c, ds, rfl, by simpa [CharSet.has] using hc, hds⟩
  · rintro ⟨c, ds, rfl, hc, hds⟩
    exact ⟨[c], ds, rfl, ⟨c, rfl, by simpa [CharSet.has] using hc⟩, hds⟩

lemma has_identifierSet (c : Char) : identifierSet.has c = isIdentifierChar c := by
  have hupper : c.isUpper = true ↔ 'A' ≤ c ∧ c ≤ 'Z' := decide_eq_true_iff
  have hlower : c.isLower = true ↔ 'a' ≤ c ∧ c ≤ 'z' :=
    Bool.and_eq_true_iff.trans (and_congr decide_eq_true_iff decide_eq_true_iff)
  have hdigit : c.isDigit = true ↔ '0' ≤ c ∧ c ≤ '9' :=
    Bool.and_eq_true_iff.trans (and_congr decide_eq_true_iff decide_eq_true_iff)
  have halphanum : c.isAlphanum = (c.isUpper || c.isLower || c.isDigit) := rfl
  rw [Bool.eq_iff_iff]
  simp only [identifierSet, CharSet.has, Bool.or_eq_true, Bool.and_eq_true, decide_eq_true_eq,
    CharSet.has_single, isIdentifierChar, halphanum, hupper, hlower, hdigit, Bool.false_eq_true, false_or]
  rw [or_assoc (b := 'A' ≤ c ∧ c ≤ 'Z'), or_comm (b := 'A' ≤ c ∧ c ≤ 'Z' ∨ 'a' ≤ c ∧ c ≤ 'z')]

lemma reads_identifierTree : identifierTree.Reads (isIdentifier · = true) :=
  (Tree.reads_some identifierSet).congr fun cs => by simp only [has_identifierSet, isIdentifier_iff]

lemma reads_dottedTree : dottedTree.Reads Dotted := by
  have hmore := ((Tree.reads_single '.').seq reads_identifierTree).star
  refine (reads_identifierTree.seq hmore).congr fun cs => ?_
  rw [dotted_iff]
  constructor
  · rintro ⟨id, _, rfl, hid, ws, hws, rfl⟩
    obtain ⟨ids, rfl⟩ : ws ∈ Set.range (List.map ('.' :: ·)) := by
      rw [Set.range_list_map]
      intro w hw
      obtain ⟨_, next, rfl, rfl, -⟩ := hws w hw
      exact ⟨next, rfl⟩
    refine ⟨id :: ids, List.cons_ne_nil _ _, List.forall_mem_cons.2 ⟨hid, fun next hnext => ?_⟩,
      (intercalate_cons id ids).symm⟩
    obtain ⟨_, _, heq, rfl, hread⟩ := hws _ (List.mem_map_of_mem hnext)
    obtain rfl := (List.cons.inj heq).2
    exact hread
  · rintro ⟨ids, hne, hids, rfl⟩
    obtain ⟨id, ids, rfl⟩ := List.exists_cons_of_ne_nil hne
    obtain ⟨hid, hids⟩ := List.forall_mem_cons.1 hids
    refine ⟨id, _, intercalate_cons id ids, hid, _, fun w hw => ?_, rfl⟩
    obtain ⟨next, hnext, rfl⟩ := List.mem_map.1 hw
    exact ⟨['.'], next, rfl, rfl, hids next hnext⟩

lemma reads_markedTree (mark : Char) : (markedTree mark).Reads fun cs =>
    ∃ rest, (∀ r ∈ rest, Dotted r) ∧ cs = marked mark rest := by
  refine ((Tree.reads_single mark).seq reads_dottedTree).optional.congr fun cs => ⟨?_, ?_⟩
  · rintro (⟨_, r, rfl, rfl, hr⟩ | rfl)
    · exact ⟨some r, by simpa using hr, rfl⟩
    · exact ⟨none, nofun, rfl⟩
  · rintro ⟨_ | r, hr, rfl⟩
    · exact .inr rfl
    · exact .inl ⟨[mark], r, rfl, rfl, hr r rfl⟩

lemma starts_coreTree : coreTree.Starts fun cs => ∃ a b c, isNumeral a = true ∧
    isNumeral b = true ∧ isNumeral c = true ∧ cs = a ++ '.' :: (b ++ '.' :: c) := by
  have hdot := Tree.reads_single '.'
  refine ((((reads_numeralTree.starts.seq hdot).seq reads_numeralTree).seq hdot).seq
    reads_numeralTree).congr fun cs => ⟨?_, ?_⟩
  · rintro ⟨_, c, rfl, ⟨_, _, rfl, ⟨_, b, rfl, ⟨a, _, rfl, ha, rfl⟩, hb⟩, rfl⟩, hc⟩
    exact ⟨a, b, c, ha, hb, hc, by simp⟩
  · rintro ⟨a, b, c, ha, hb, hc, rfl⟩
    exact ⟨a ++ ['.'] ++ b ++ ['.'], c, by simp,
      ⟨_, _, rfl, ⟨_, b, rfl, ⟨a, _, rfl, ha, rfl⟩, hb⟩, rfl⟩, hc⟩

lemma accepts_iff {text : String} :
    pattern.accepts text = true ↔ ∃ p, parts? text.toList = some p := by
  have hwhole := (starts_coreTree.seq (reads_markedTree '-')).seq (reads_markedTree '+')
  refine hwhole.occursIn_iff.trans ⟨?_, ?_⟩
  · rintro ⟨_, _, htext, ⟨_, _, rfl, ⟨a, b, c, ha, hb, hc, rfl⟩, pre, hpre, rfl⟩, build, hbuild, rfl⟩
    cases pre with
    | none =>
      exact ⟨⟨(a, b, c), [], build⟩, parts?_eq_some.2 ⟨⟨ha, hb, hc, nofun, hbuild⟩, htext⟩⟩
    | some pre =>
      refine ⟨⟨(a, b, c), pre.splitOn '.', build⟩,
        parts?_eq_some.2 ⟨⟨ha, hb, hc, hpre pre rfl, hbuild⟩, ?_⟩⟩
      rw [htext, Parts.text, Parts.preText_splitOn]
      rfl
  · rintro ⟨p, hp⟩
    obtain ⟨h, htext⟩ := parts?_eq_some.1 hp
    exact ⟨_, _, htext, ⟨_, _, rfl, ⟨_, _, _, h.major, h.minor, h.patch, rfl⟩, _, h.dotted_preText, rfl⟩,
      _, h.build, rfl⟩

end

end TypedArtifacts.Version
