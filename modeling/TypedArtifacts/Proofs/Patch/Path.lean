import Mathlib.Tactic
import TypedArtifacts.Patch.Path

namespace TypedArtifacts.Patch.Path

def Escaped (cs : List Char) : Prop :=
  ∀ before after, cs = before ++ '~' :: after → after.head? = some '0' ∨ after.head? = some '1'

structure IsSegment (cs : List Char) : Prop where
  nonempty : cs ≠ []
  slashless : '/' ∉ cs
  escaped : Escaped cs

def joined (parts : List (List Char)) : List Char :=
  parts.flatMap ('/' :: ·)

def WellFormed (path : String) : Prop :=
  ∃ parts, parts ≠ [] ∧ (∀ part ∈ parts, IsSegment part) ∧ path.toList = joined parts

variable {c : Char} {cs ds : List Char} {raw parts : List (List Char)}

lemma escaped_cons : Escaped (c :: cs) ↔
    (c = '~' → cs.head? = some '0' ∨ cs.head? = some '1') ∧ Escaped cs := by
  constructor
  · intro h
    refine ⟨?_, fun before after hcs => h (c :: before) after (by rw [hcs, List.cons_append])⟩
    rintro rfl
    exact h [] cs rfl
  · rintro ⟨hfirst, hrest⟩ before after h
    cases before with
    | nil =>
      obtain ⟨rfl, rfl⟩ := List.cons.inj h
      exact hfirst rfl
    | cons b before => exact hrest before after (List.cons.inj h).2

lemma isSome_unescape (cs : List Char) : (unescape cs).isSome = true ↔ Escaped cs := by
  fun_induction unescape cs with
  | case1 => simp [Escaped]
  | case2 cs ih => simp [escaped_cons, ih]
  | case3 cs ih => simp [escaped_cons, ih]
  | case4 cs h0 h1 =>
    have hhead : ¬(cs.head? = some '0' ∨ cs.head? = some '1') := by
      rintro (h | h)
      · obtain ⟨rest, rfl⟩ := List.head?_eq_some_iff.1 h
        exact h0 rest rfl rfl
      · obtain ⟨rest, rfl⟩ := List.head?_eq_some_iff.1 h
        exact h1 rest rfl rfl
    simp [escaped_cons, hhead]
  | case5 c cs _ _ hc ih => simp [escaped_cons, hc, ih]

lemma slash_notMem_escape (cs : List Char) : '/' ∉ escape cs := by
  induction cs with
  | nil => exact List.not_mem_nil
  | cons c cs ih =>
    rw [escape]
    split
    · simpa using ih
    · split
      · simpa using ih
      · rename_i hc
        simpa [eq_comm, hc] using ih

lemma unescape_eq_some (hs : '/' ∉ cs) : unescape cs = some ds ↔ escape ds = cs := by
  refine ⟨fun h => ?_, fun h => h ▸ unescape_escape ds⟩
  fun_induction unescape cs generalizing ds with
  | case1 =>
    obtain rfl := Option.some.inj h
    rfl
  | case2 cs ih =>
    obtain ⟨es, hes, rfl⟩ := Option.map_eq_some_iff.1 h
    rw [escape, if_pos rfl, ih (by simpa using hs) hes]
  | case3 cs ih =>
    obtain ⟨es, hes, rfl⟩ := Option.map_eq_some_iff.1 h
    rw [escape, if_neg (by decide), if_pos rfl, ih (by simpa using hs) hes]
  | case4 cs h0 h1 => cases h
  | case5 c cs h0 h1 hc ih =>
    obtain ⟨es, hes, rfl⟩ := Option.map_eq_some_iff.1 h
    obtain ⟨hslash, hrest⟩ := not_or.1 (mt List.mem_cons.2 hs)
    rw [escape, if_neg hc, if_neg (Ne.symm hslash), ih hrest hes]

lemma escape_eq_nil : escape cs = [] ↔ cs = [] := by
  constructor
  · intro h
    have hcs := unescape_escape cs
    rw [h] at hcs
    exact (Option.some.inj hcs).symm
  · rintro rfl
    rfl

lemma isSegment_iff : IsSegment cs ↔ ∃ ds, ds ≠ [] ∧ escape ds = cs := by
  constructor
  · rintro ⟨hne, hs, he⟩
    obtain ⟨ds, hds⟩ := Option.isSome_iff_exists.1 ((isSome_unescape cs).2 he)
    have hcs := (unescape_eq_some hs).1 hds
    refine ⟨ds, ?_, hcs⟩
    rintro rfl
    exact hne hcs.symm
  · rintro ⟨ds, hne, rfl⟩
    refine ⟨mt escape_eq_nil.1 hne, slash_notMem_escape ds, ?_⟩
    rw [← isSome_unescape, unescape_escape]
    rfl

lemma mapM_unescape (hs : ∀ part ∈ raw, '/' ∉ part) :
    raw.mapM unescape = some parts ↔ parts.map escape = raw := by
  induction raw generalizing parts with
  | nil => simp [eq_comm]
  | cons r raw ih =>
    obtain ⟨hr, hraw⟩ := List.forall_mem_cons.1 hs
    rw [List.mapM_cons, List.map_eq_cons_iff]
    simp only [Option.bind_eq_bind, Option.bind_eq_some_iff, Option.pure_def, Option.some.injEq,
      unescape_eq_some hr, ih hraw]
    grind

lemma joined_eq (h : parts ≠ []) : joined parts = '/' :: ['/'].intercalate parts := by
  induction parts with
  | nil => exact absurd rfl h
  | cons p parts ih =>
    cases parts with
    | nil => simp [joined]
    | cons q parts =>
      have hq := ih (List.cons_ne_nil q parts)
      rw [joined, List.flatMap_cons, ← joined, hq, List.intercalate_cons_cons]
      simp

lemma hasEmptySegment_cons (h : c ≠ '/' ∨ cs.head? ≠ some '/') :
    hasEmptySegment (c :: cs) = hasEmptySegment cs := by
  rw [hasEmptySegment]
  rintro rest rfl rfl
  simp at h

lemma hasEmptySegment_append (hs : '/' ∉ cs) (rest : List Char) :
    hasEmptySegment (cs ++ rest) = hasEmptySegment rest := by
  induction cs with
  | nil => rfl
  | cons c cs ih =>
    obtain ⟨hc, hcs⟩ := not_or.1 (mt List.mem_cons.2 hs)
    rw [List.cons_append, hasEmptySegment_cons (.inl (Ne.symm hc)), ih hcs]

lemma endsWithSlash_append (hne : cs ≠ []) (hs : '/' ∉ cs) (rest : List Char) :
    endsWithSlash (c :: (cs ++ rest)) = endsWithSlash rest := by
  have hlast : cs.getLast hne ≠ '/' := fun h => hs (h ▸ List.getLast_mem hne)
  have hall : (c :: (cs ++ rest)).getLast? = rest.getLast?.or (some (cs.getLast hne)) := by
    rw [← List.cons_append, List.getLast?_append, List.getLast?_cons_of_ne_nil hne,
      List.getLast?_eq_some_getLast hne]
  simp only [endsWithSlash, hall]
  cases rest.getLast? with
  | none => simp [hlast]
  | some x => rfl

lemma emptySegment_joined (hs : ∀ part ∈ raw, '/' ∉ part) :
    (endsWithSlash (joined raw) = true ∨ hasEmptySegment (joined raw) = true) ↔ [] ∈ raw := by
  induction raw with
  | nil => simp [joined, endsWithSlash, hasEmptySegment]
  | cons part raw ih =>
    obtain ⟨hpart, hraw⟩ := List.forall_mem_cons.1 hs
    have hcons : joined (part :: raw) = '/' :: (part ++ joined raw) := rfl
    rw [hcons]
    cases part with
    | nil =>
      cases raw with
      | nil => simp [joined, endsWithSlash]
      | cons q raw => simp [joined, hasEmptySegment]
    | cons c cs =>
      have hc : c ≠ '/' := fun h => hpart (h ▸ List.mem_cons_self)
      rw [endsWithSlash_append (List.cons_ne_nil c cs) hpart,
        hasEmptySegment_cons (.inr (by simpa using hc)), hasEmptySegment_append hpart, ih hraw]
      simp

lemma slash_notMem_splitOn (body : List Char) : ∀ part ∈ body.splitOn '/', '/' ∉ part := by
  induction body with
  | nil => simp
  | cons c body ih =>
    rw [List.splitOn_cons_eq_if_modifyHead]
    split
    · exact List.forall_mem_cons.2 ⟨List.not_mem_nil, ih⟩
    · rename_i hc
      obtain ⟨first, rest, hsplit⟩ := List.exists_cons_of_ne_nil (List.splitOn_ne_nil '/' body)
      rw [hsplit] at ih ⊢
      obtain ⟨hfirst, hrest⟩ := List.forall_mem_cons.1 ih
      have hne : '/' ≠ c := by
        rintro rfl
        exact hc rfl
      exact List.forall_mem_cons.2 ⟨List.not_mem_cons_of_ne_of_not_mem hne hfirst, hrest⟩

lemma joined_splitOn (body : List Char) : joined (body.splitOn '/') = '/' :: body := by
  rw [joined_eq (List.splitOn_ne_nil '/' body), List.intercalate_splitOn]

lemma segments_slash (body : List Char) : segments ('/' :: body) = .ok parts ↔
    [] ∉ body.splitOn '/' ∧ parts.map escape = body.splitOn '/' := by
  have hempty := emptySegment_joined (slash_notMem_splitOn body)
  rw [joined_splitOn] at hempty
  rw [← hempty, ← mapM_unescape (slash_notMem_splitOn body), segments]
  split
  · simp_all
  · split
    · simp_all
    · cases (body.splitOn '/').mapM unescape <;> simp_all

lemma segments_eq_ok : segments cs = .ok parts ↔
    parts ≠ [] ∧ [] ∉ parts ∧ joined (parts.map escape) = cs := by
  have hnil : [] ∈ parts.map escape ↔ [] ∈ parts := by
    simp [escape_eq_nil]
  constructor
  · intro h
    cases cs with
    | nil => cases h
    | cons c body =>
      by_cases hc : c = '/'
      · subst hc
        obtain ⟨hempty, hraw⟩ := (segments_slash body).1 h
        refine ⟨?_, ?_, hraw ▸ joined_splitOn body⟩
        · rintro rfl
          exact List.splitOn_ne_nil '/' body hraw.symm
        · rwa [← hnil, hraw]
      · rw [segments] at h
        · cases h
        · exact fun _ h => hc (List.cons.inj h).1
  · rintro ⟨hne, hempty, rfl⟩
    have hraw : parts.map escape ≠ [] := by simpa using hne
    have hslash : ∀ part ∈ parts.map escape, '/' ∉ part := by
      simpa using fun part _ => slash_notMem_escape part
    rw [joined_eq hraw, segments_slash, List.splitOn_intercalate '/' hslash hraw]
    exact ⟨mt hnil.1 hempty, rfl⟩

lemma toList_render (parts : List String) :
    (render parts).toList = joined (parts.map fun part => escape part.toList) := by
  rw [render, String.toList_ofList, joined, List.flatMap_map]

lemma parse_eq_ok {path : String} {parts : List String} :
    parse path = .ok parts ↔ parts ≠ [] ∧ "" ∉ parts ∧ render parts = path := by
  have hsegments : parse path = .ok parts ↔
      segments path.toList = .ok (parts.map String.toList) := by
    rw [parse]
    cases segments path.toList with
    | error fault => simp
    | ok found =>
      simp only [Except.ok.injEq]
      constructor
      · rintro rfl
        simp [Function.comp_def]
      · rintro rfl
        simp [Function.comp_def]
  have hempty : [] ∈ parts.map String.toList ↔ "" ∈ parts := by
    simp
  rw [hsegments, segments_eq_ok, hempty, ne_eq, List.map_eq_nil_iff, List.map_map,
    ← String.toList_inj, toList_render]
  rfl

lemma exists_escaped (h : ∀ part ∈ raw, IsSegment part) :
    ∃ parts : List String, "" ∉ parts ∧ (parts.map fun part => escape part.toList) = raw := by
  induction raw with
  | nil => exact ⟨[], List.not_mem_nil, rfl⟩
  | cons r raw ih =>
    obtain ⟨hr, hraw⟩ := List.forall_mem_cons.1 h
    obtain ⟨ds, hne, rfl⟩ := isSegment_iff.1 hr
    obtain ⟨parts, hempty, rfl⟩ := ih hraw
    refine ⟨String.ofList ds :: parts, ?_, by simp⟩
    have hds : "" ≠ String.ofList ds := fun h => hne (String.ofList_eq_empty_iff.1 h.symm)
    exact List.not_mem_cons_of_ne_of_not_mem hds hempty

/-- The paths are the well-formed texts, and each is the one that its segments are written as. -/
theorem parse_exact :
    (∀ path, (∃ parts, parse path = .ok parts) ↔ WellFormed path) ∧
      ∀ path parts, parse path = .ok parts ↔
        parts ≠ [] ∧ "" ∉ parts ∧ render parts = path := by
  refine ⟨fun path => ⟨?_, ?_⟩, fun path parts => parse_eq_ok⟩
  · rintro ⟨parts, h⟩
    obtain ⟨hne, hempty, rfl⟩ := parse_eq_ok.1 h
    refine ⟨_, by simpa using hne, ?_, toList_render parts⟩
    rw [List.forall_mem_map]
    intro part hpart
    refine isSegment_iff.2 ⟨part.toList, ?_, rfl⟩
    rintro hnil
    exact hempty (String.toList_eq_nil_iff.1 hnil ▸ hpart)
  · rintro ⟨raw, hne, hraw, hpath⟩
    obtain ⟨parts, hempty, rfl⟩ := exists_escaped hraw
    refine ⟨parts, parse_eq_ok.2 ⟨by simpa using hne, hempty, ?_⟩⟩
    rw [← String.toList_inj, toList_render, hpath]

example : parse "/a~1b/~01" = .ok ["a/b", "~1"] := by decide

end TypedArtifacts.Patch.Path
