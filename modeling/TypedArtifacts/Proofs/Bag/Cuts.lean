import Mathlib.Data.List.TakeWhile
import TypedArtifacts.Proofs.Bag.Spread

/-! Telling from the text of a key which part it belongs to. -/

namespace TypedArtifacts

variable {ρ : Type}

open Definition

lemma toList_keyUnder (key name : String) :
    (keyUnder key name).toList = key.toList ++ '.' :: name.toList := by
  simp [keyUnder]

lemma ne_dot {cs : List Char} (h : '.' ∉ cs) : ∀ c ∈ cs, decide (c ≠ '.') = true := by
  intro c hc
  have hne : c ≠ '.' := by
    rintro rfl
    exact h hc
  simpa using hne

lemma cutAtDot_dotless {key : String} (h : '.' ∉ key.toList) : cutAtDot key = (key, none) := by
  simp only [cutAtDot, List.takeWhile_eq_self_iff.2 (ne_dot h),
    List.dropWhile_eq_nil_iff.2 (ne_dot h)]
  simp

lemma cutAtDot_keyUnder {key : String} (h : '.' ∉ key.toList) (name : String) :
    cutAtDot (keyUnder key name) = (key, some name) := by
  simp only [cutAtDot, toList_keyUnder, List.takeWhile_append_of_pos (ne_dot h),
    List.dropWhile_append_of_pos (ne_dot h)]
  simp

namespace Definition

def Unambiguous (keys : List String) : Prop :=
  ∀ a ∈ keys, ∀ b ∈ keys, a ≠ b → ¬ (a.toList ++ ['.']) <+: b.toList

lemma declaredCut_self {keys : List (String × Definition ρ)} (h : Unambiguous (Dict.keys keys))
    {key : String} (hk : key ∈ Dict.keys keys) : declaredCut keys key = (key, none) := by
  have hf : keys.find? (fun e => (e.1.toList ++ ['.']).isPrefixOf key.toList) = none := by
    refine List.find?_eq_none.2 fun e he => ?_
    simp only [List.isPrefixOf_iff_prefix]
    by_cases hek : e.1 = key
    · intro hp
      have hl := hp.length_le
      rw [hek] at hl
      simp at hl
    · exact h e.1 (Dict.mem_keys_of_mem he) key hk hek
  simp only [declaredCut, hf]

lemma prefix_keyUnder_cases {a key name : String}
    (hp : (a.toList ++ ['.']) <+: (keyUnder key name).toList) :
    a = key ∨ (a.toList ++ ['.']) <+: key.toList ∨ (key.toList ++ ['.']) <+: a.toList := by
  rw [toList_keyUnder] at hp
  have hkey : (key.toList ++ ['.']) <+: key.toList ++ '.' :: name.toList := ⟨name.toList, by simp⟩
  rcases Nat.lt_trichotomy a.toList.length key.toList.length with hl | hl | hl
  · exact Or.inr (Or.inl
      (List.prefix_of_prefix_length_le hp (List.prefix_append _ _) (by simp; simpa using hl)))
  · have hpre : a.toList <+: key.toList :=
      List.prefix_of_prefix_length_le ((List.prefix_append _ _).trans hp) (List.prefix_append _ _)
        hl.le
    exact Or.inl (String.ext (hpre.eq_of_length hl))
  · exact Or.inr (Or.inr (List.prefix_of_prefix_length_le hkey ((List.prefix_append _ _).trans hp)
      (by simp; simpa using hl)))

lemma eq_of_prefix_keyUnder {keys : List String} (h : Unambiguous keys) {a key : String}
    (ha : a ∈ keys) (hk : key ∈ keys) {name : String}
    (hp : (a.toList ++ ['.']) <+: (keyUnder key name).toList) : a = key := by
  by_contra hne
  rcases prefix_keyUnder_cases hp with he | hpre | hpre
  · exact hne he
  · exact h a ha key hk hne hpre
  · exact h key hk a ha (Ne.symm hne) hpre

lemma declaredCut_keyUnder {keys : List (String × Definition ρ)} (h : Unambiguous (Dict.keys keys))
    {key : String} (hk : key ∈ Dict.keys keys) (name : String) :
    declaredCut keys (keyUnder key name) = (key, some name) := by
  obtain ⟨e, he, hek⟩ := List.mem_map.1 hk
  have hp : (key.toList ++ ['.']) <+: (keyUnder key name).toList := by
    rw [toList_keyUnder]
    exact ⟨name.toList, by simp⟩
  cases hf : keys.find? (fun e => (e.1.toList ++ ['.']).isPrefixOf (keyUnder key name).toList) with
  | none =>
    have hn := List.find?_eq_none.1 hf e he
    simp only [List.isPrefixOf_iff_prefix, hek] at hn
    exact absurd hp hn
  | some f =>
    have hpf := List.find?_some hf
    simp only [List.isPrefixOf_iff_prefix] at hpf
    have hfk : f.1 = key :=
      eq_of_prefix_keyUnder h (Dict.mem_keys_of_mem (List.mem_of_find?_eq_some hf)) hk hpf
    obtain ⟨k, d⟩ := f
    obtain rfl : k = key := hfk
    have hdrop : (keyUnder k name).toList.drop (k.length + 1) = name.toList := by
      rw [toList_keyUnder, ← String.length_toList, List.drop_append]
      simp
    simp only [declaredCut, hf, hdrop, String.ofList_toList]

end Definition

structure Cuts (cut : String → String × Option String) (parts : List (String × Leaves)) : Prop where
  own : ∀ e ∈ parts, e.2.own.isSome = true → cut e.1 = (e.1, none)
  dotted : ∀ e ∈ parts, ∀ f ∈ e.2.dotted, cut (keyUnder e.1 f.1) = (e.1, some f.1)

namespace Leaves

def placedAt (key : String) (l : Leaves) : List Placed :=
  l.own.toList.map (fun v => ⟨key, none, v⟩) ++ l.dotted.map fun e => ⟨key, some e.1, e.2⟩

lemma placeLeaves_join {cut : String → String × Option String} {parts : List (String × Leaves)}
    (h : Cuts cut parts) :
    placeLeaves cut (join parts) = parts.flatMap fun e => e.2.placedAt e.1 := by
  rw [placeLeaves, join, List.map_flatMap]
  apply List.flatMap_congr
  intro e he
  rw [under, placedAt, List.map_append, List.map_map, List.map_map]
  congr 1
  · apply List.map_congr_left
    intro v hv
    have ho := h.own e he (Option.isSome_iff_exists.2 ⟨v, by simpa using hv⟩)
    simp only [Function.comp, ho]
  · apply List.map_congr_left
    intro f hf
    simp only [Function.comp, h.dotted e he f hf]

def places (key : String) (l : Leaves) : List (String × Option String) :=
  (l.placedAt key).map fun p => (p.key, p.deeper)

lemma mem_places {key : String} {l : Leaves} {p : String × Option String}
    (h : p ∈ l.places key) : p.1 = key := by
  obtain ⟨q, hq, rfl⟩ := List.mem_map.1 h
  rcases List.mem_append.1 hq with hq | hq
  · obtain ⟨_, _, rfl⟩ := List.mem_map.1 hq
    rfl
  · obtain ⟨_, _, rfl⟩ := List.mem_map.1 hq
    rfl

lemma nodup_places {key : String} {l : Leaves} (h : (Dict.keys l.dotted).Nodup) :
    (l.places key).Nodup := by
  rw [places, placedAt, List.map_append, List.map_map, List.map_map]
  refine List.nodup_append.2 ⟨?_, ?_, ?_⟩
  · cases l.own with
    | none => exact List.nodup_nil
    | some _ => exact List.nodup_singleton _
  · have hk : (Dict.keys l.dotted).map (fun k => (key, some k)) =
        l.dotted.map ((fun p : Placed => (p.key, p.deeper)) ∘ fun f => ⟨key, some f.1, f.2⟩) := by
      simp [Dict.keys, Function.comp_def]
    rw [← hk]
    exact h.map fun a b hab => by simpa using hab
  · intro a ha b hb
    obtain ⟨v, _, rfl⟩ := List.mem_map.1 ha
    obtain ⟨f, _, rfl⟩ := List.mem_map.1 hb
    simp

lemma map_cut_join {cut : String → String × Option String} {parts : List (String × Leaves)}
    (h : Cuts cut parts) :
    (Dict.keys (join parts)).map cut = parts.flatMap fun e => e.2.places e.1 := by
  have hp := congrArg (List.map fun p : Placed => (p.key, p.deeper)) (placeLeaves_join h)
  rw [List.map_flatMap] at hp
  simp only [places]
  rw [← hp, placeLeaves, Dict.keys, List.map_map, List.map_map]
  rfl

lemma nodup_join {cut : String → String × Option String} {parts : List (String × Leaves)}
    (h : Cuts cut parts) (hn : (Dict.keys parts).Nodup)
    (hd : ∀ e ∈ parts, (Dict.keys e.2.dotted).Nodup) : (Dict.keys (join parts)).Nodup := by
  -- The cut tells the keys apart: those of one part by the rest, those of two by the part.
  apply List.Nodup.of_map cut
  rw [map_cut_join h]
  refine List.nodup_flatMap.2 ⟨fun e he => nodup_places (hd e he),
    (List.pairwise_map.1 hn).imp ?_⟩
  intro e f hne p hp hq
  exact hne ((mem_places hp).symm.trans (mem_places hq))

end Leaves

end TypedArtifacts
