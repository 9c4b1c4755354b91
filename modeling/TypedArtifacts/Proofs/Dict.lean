import Mathlib.Data.List.Perm.Basic
import Mathlib.Data.List.Nodup
import Mathlib.Tactic
import TypedArtifacts.Dict

namespace TypedArtifacts.Dict

variable {α β : Type}

@[simp] lemma keys_nil : keys ([] : List (String × α)) = [] := rfl

@[simp] lemma keys_cons (e : String × α) (d : List (String × α)) : keys (e :: d) = e.1 :: keys d := rfl

lemma mem_keys_of_mem {e : String × α} {d : List (String × α)} (h : e ∈ d) : e.1 ∈ keys d :=
  List.mem_map_of_mem h

lemma mem_of_lookup {key : String} {v : α} {d : List (String × α)} (h : d.lookup key = some v) :
    (key, v) ∈ d := by
  obtain ⟨l, r, rfl, _⟩ := List.lookup_eq_some_iff.1 h
  simp

lemma lookup_of_mem {key : String} {v : α} {d : List (String × α)} (hd : (keys d).Nodup)
    (h : (key, v) ∈ d) : d.lookup key = some v := by
  induction d with
  | nil => simp at h
  | cons e d ih =>
    obtain ⟨k, w⟩ := e
    obtain ⟨hk, hn⟩ := List.nodup_cons.1 hd
    rcases List.mem_cons.1 h with he | hm
    · obtain ⟨rfl, rfl⟩ := Prod.mk.inj he
      simp
    · have hne : key ≠ k := by
        rintro rfl
        have hmem : key ∈ keys d := mem_keys_of_mem hm
        exact hk hmem
      rw [List.lookup_cons, beq_false_of_ne hne]
      exact ih hn hm

lemma search_of_lookup {search : List (String × α) → β} {answer : α → β} {key : String}
    (hsearch : ∀ k v d, search ((k, v) :: d) = if key = k then answer v else search d) {v : α}
    {d : List (String × α)} (h : d.lookup key = some v) : search d = answer v := by
  induction d with
  | nil => cases h
  | cons e d ih =>
    obtain ⟨k, w⟩ := e
    rw [List.lookup_cons] at h
    rw [hsearch]
    by_cases hk : key = k
    · subst hk
      simp only [beq_self_eq_true, Option.some.injEq] at h
      rw [if_pos rfl, h]
    · rw [beq_false_of_ne hk] at h
      rw [if_neg hk, ih h]

lemma lookup_eq_none {key : String} {d : List (String × α)} :
    d.lookup key = none ↔ key ∉ keys d := by
  simp only [List.lookup_eq_none_iff, keys, List.mem_map, not_exists, not_and, bne_iff_ne, ne_eq]
  exact ⟨fun h e he hk => h e he hk.symm, fun h e he hk => h e he hk.symm⟩

lemma lookup_map (f : String → α → β) (d : List (String × α)) (key : String) :
    (d.map fun e => (e.1, f e.1 e.2)).lookup key = (d.lookup key).map (f key) := by
  induction d with
  | nil => rfl
  | cons e d ih =>
    rw [List.map_cons, List.lookup_cons, List.lookup_cons]
    by_cases h : key = e.1
    · subst h
      simp
    · rw [beq_false_of_ne h]
      exact ih

lemma keys_map (f : String → α → β) (d : List (String × α)) :
    keys (d.map fun e => (e.1, f e.1 e.2)) = keys d := by
  simp [keys, Function.comp_def]

lemma Sorted.nodup {d : List (String × α)} (hd : Sorted d) : (keys d).Nodup :=
  List.pairwise_map.2 (hd.imp fun h he => absurd (he ▸ h) (String.lt_irrefl _))

lemma Sorted.map (f : String → α → β) {d : List (String × α)} (hd : Sorted d) :
    Sorted (d.map fun e => (e.1, f e.1 e.2)) :=
  List.pairwise_map.2 hd

lemma sorted_of_map (f : String → α → β) {d : List (String × α)}
    (h : Sorted (d.map fun e => (e.1, f e.1 e.2))) : Sorted d := by
  rw [Sorted, List.pairwise_map] at h
  exact h

lemma Sorted.eq_of_perm {d e : List (String × α)} (hd : Sorted d) (he : Sorted e) (h : d.Perm e) :
    d = e :=
  h.eq_of_pairwise (fun _ _ _ _ hxy hyx => absurd (String.lt_trans hxy hyx) (String.lt_irrefl _))
    hd he

lemma Sorted.ext {d e : List (String × α)} (hd : Sorted d) (he : Sorted e)
    (h : ∀ key, d.lookup key = e.lookup key) : d = e := by
  refine hd.eq_of_perm he ((List.perm_ext_iff_of_nodup hd.nodup.of_map he.nodup.of_map).2 ?_)
  rintro ⟨k, v⟩
  constructor
  · intro hm
    exact mem_of_lookup ((h k).symm.trans (lookup_of_mem hd.nodup hm))
  · intro hm
    exact mem_of_lookup ((h k).trans (lookup_of_mem he.nodup hm))

lemma mem_insert {e : String × α} {key : String} {v : α} {d : List (String × α)}
    (h : e ∈ insert key v d) : e = (key, v) ∨ e ∈ d := by
  induction d with
  | nil => exact Or.inl (List.mem_singleton.1 h)
  | cons x d ih =>
    rw [insert] at h
    split at h
    · exact (List.mem_cons.1 h).imp_right (List.mem_cons_of_mem _)
    · split at h
      · exact List.mem_cons.1 h
      · rcases List.mem_cons.1 h with rfl | h
        · exact Or.inr List.mem_cons_self
        · exact (ih h).imp_right (List.mem_cons_of_mem _)

lemma mem_update {e : String × α} {d entries : List (String × α)} (h : e ∈ update d entries) :
    e ∈ d ∨ e ∈ entries := by
  induction entries generalizing d with
  | nil => exact Or.inl h
  | cons x entries ih =>
    rcases ih h with hd | hm
    · rcases mem_insert hd with rfl | hd
      · exact Or.inr List.mem_cons_self
      · exact Or.inl hd
    · exact Or.inr (List.mem_cons_of_mem _ hm)

lemma mem_ofList {e : String × α} {entries : List (String × α)} (h : e ∈ ofList entries) :
    e ∈ entries :=
  (mem_update h).resolve_left (by simp)

lemma lookup_insert (key k : String) (v : α) (d : List (String × α)) :
    (insert key v d).lookup k = if k = key then some v else d.lookup k := by
  split
  · rename_i h
    rw [h, lookup_insert_self]
  · rename_i h
    exact lookup_insert_of_ne h v d

lemma lookup_erase (key k : String) (d : List (String × α)) :
    (erase key d).lookup k = if k = key then none else d.lookup k := by
  by_cases hk : k = key
  · rw [if_pos hk, hk, lookup_erase_self]
  · rw [if_neg hk]
    induction d with
    | nil => rfl
    | cons e rest ih =>
      rw [erase] at ih ⊢
      by_cases he : e.1 = key
      · have hne : (k == e.1) = false := by simpa [he] using hk
        simp only [he, bne_self_eq_false, Bool.false_eq_true, not_false_eq_true,
          List.filter_cons_of_neg, ih]
        rw [List.lookup_cons, hne]
      · have hkept : (e.1 != key) = true := by simpa using he
        rw [List.filter_cons, if_pos hkept, List.lookup_cons, List.lookup_cons, ih]

lemma mem_keys_insert_iff {key k : String} {v : α} {d : List (String × α)} :
    k ∈ keys (insert key v d) ↔ k = key ∨ k ∈ keys d := by
  rw [← not_iff_not, not_or, ← lookup_eq_none, ← lookup_eq_none, lookup_insert]
  by_cases hk : k = key <;> simp [hk]

lemma lookup_filter (p : String → Bool) (d : List (String × α)) (key : String) :
    (d.filter fun e => p e.1).lookup key = if p key then d.lookup key else none := by
  induction d with
  | nil => simp
  | cons e d ih =>
    obtain ⟨k, v⟩ := e
    rw [List.filter_cons, List.lookup_cons]
    by_cases hk : key = k
    · subst hk
      by_cases hp : p key = true <;> simp [hp, ih]
    · by_cases hp : p k = true <;> simp [hp, ih, List.lookup_cons, beq_false_of_ne hk]

lemma filter_insert (p : String → Bool) {d : List (String × α)} (hd : Sorted d) (key : String)
    (v : α) : (insert key v d).filter (fun e => p e.1) =
      if p key then insert key v (d.filter fun e => p e.1) else d.filter fun e => p e.1 := by
  apply Sorted.ext ((hd.insert key v).filter _)
  · split
    · exact Sorted.insert (hd.filter _) key v
    · exact hd.filter _
  · intro k
    rw [lookup_filter, lookup_insert]
    by_cases hk : k = key
    · subst hk
      by_cases hp : p k = true <;> simp [hp, lookup_filter]
    · by_cases hp : p key = true <;> simp [hp, hk, lookup_insert, lookup_filter]

lemma filter_ofList (p : String → Bool) (entries : List (String × α)) :
    (ofList entries).filter (fun e => p e.1) = ofList (entries.filter fun e => p e.1) := by
  have hupdate : ∀ {d : List (String × α)}, Sorted d → (update d entries).filter (fun e => p e.1) =
      update (d.filter fun e => p e.1) (entries.filter fun e => p e.1) := by
    induction entries with
    | nil => exact fun _ => rfl
    | cons e entries ih =>
      intro d hd
      have hcons := ih (hd.insert e.1 e.2)
      rw [filter_insert p hd] at hcons
      rw [List.filter_cons]
      change (update (insert e.1 e.2 d) entries).filter _ = _
      rw [hcons]
      by_cases hp : p e.1 = true
      · simp only [hp, if_true]
        rfl
      · simp only [hp, if_false, Bool.false_eq_true]
  exact hupdate .nil

lemma mem_keys_ofList {entries : List (String × α)} {key : String} :
    key ∈ keys (ofList entries) ↔ key ∈ keys entries := by
  have hupdate : ∀ d : List (String × α),
      key ∈ keys (update d entries) ↔ key ∈ keys d ∨ key ∈ keys entries := by
    induction entries with
    | nil => simp [update]
    | cons e entries ih =>
      intro d
      refine (ih (insert e.1 e.2 d)).trans ?_
      rw [mem_keys_insert_iff, keys_cons, List.mem_cons]
      tauto
  exact (hupdate []).trans (by simp)

lemma perm_insert {key : String} {v : α} {d : List (String × α)} (h : key ∉ keys d) :
    (insert key v d).Perm ((key, v) :: d) := by
  induction d with
  | nil => exact .refl _
  | cons e d ih =>
    obtain ⟨k, w⟩ := e
    simp only [keys_cons, List.mem_cons, not_or] at h
    rw [insert, if_neg h.1]
    split
    · exact .refl _
    · exact ((ih h.2).cons _).trans (.swap _ _ _)

lemma keys_perm {d e : List (String × α)} (h : d.Perm e) : (keys d).Perm (keys e) :=
  h.map _

lemma lookup_perm {d e : List (String × α)} (hd : (keys d).Nodup) (h : d.Perm e) (key : String) :
    d.lookup key = e.lookup key := by
  have he : (keys e).Nodup := (keys_perm h).nodup_iff.1 hd
  cases hl : e.lookup key with
  | none =>
    rw [lookup_eq_none] at hl ⊢
    exact fun hm => hl ((keys_perm h).mem_iff.1 hm)
  | some v => exact lookup_of_mem hd (h.mem_iff.2 (mem_of_lookup hl))

lemma update_perm {d entries : List (String × α)} (h : (keys (d ++ entries)).Nodup) :
    (update d entries).Perm (d ++ entries) := by
  induction entries generalizing d with
  | nil => simp [update]
  | cons e entries ih =>
    have hm : ((insert e.1 e.2 d) ++ entries).Perm (d ++ e :: entries) := by
      have hk : e.1 ∉ keys d := by
        intro hmem
        simp only [keys, List.map_append, List.map_cons] at h
        exact (List.nodup_append.1 h).2.2 _ hmem _ (by simp) rfl
      exact ((perm_insert hk).append_right entries).trans List.perm_middle.symm
    exact (ih ((keys_perm hm).nodup_iff.2 h)).trans hm

lemma ofList_perm {entries : List (String × α)} (h : (keys entries).Nodup) :
    (ofList entries).Perm entries :=
  update_perm (by simpa using h)

lemma ofList_sorted {d : List (String × α)} (hd : Sorted d) : ofList d = d :=
  (sorted_ofList d).eq_of_perm hd (ofList_perm hd.nodup)

lemma lookup_update_reverse (d entries : List (String × α)) (key : String) :
    (update d entries).lookup key = (entries.reverse.lookup key).or (d.lookup key) := by
  induction entries using List.reverseRecOn with
  | nil => rfl
  | append_singleton entries e ih =>
    have hconcat : update d (entries ++ [e]) = insert e.1 e.2 (update d entries) := by simp [update]
    rw [hconcat, lookup_insert, ih, List.reverse_concat, List.lookup_cons]
    by_cases hk : key = e.1
    · simp [hk]
    · have hne : (key == e.1) = false := by simpa using hk
      rw [if_neg hk, hne]

lemma lookup_update {d entries : List (String × α)} (h : (keys entries).Nodup) (key : String) :
    (update d entries).lookup key = (entries.lookup key).or (d.lookup key) := by
  rw [lookup_update_reverse, ← lookup_perm h (List.reverse_perm entries).symm]

lemma lookup_update_of_notMem {d entries : List (String × α)} {key : String}
    (h : key ∉ keys entries) : (update d entries).lookup key = d.lookup key := by
  have hnone : entries.reverse.lookup key = none :=
    lookup_eq_none.2 fun hk => h ((keys_perm (List.reverse_perm entries)).mem_iff.1 hk)
  rw [lookup_update_reverse, hnone, Option.none_or]

lemma lookup_ofList {entries : List (String × α)} (h : (keys entries).Nodup) (key : String) :
    (ofList entries).lookup key = entries.lookup key := by
  rw [ofList, lookup_update h]
  simp

lemma lookup_filterMap (f : String → α → Option β) {d : List (String × α)} (hd : (keys d).Nodup)
    (key : String) :
    (d.filterMap fun e => (f e.1 e.2).map fun b => (e.1, b)).lookup key =
      (d.lookup key).bind (f key) := by
  induction d with
  | nil => rfl
  | cons e d ih =>
    obtain ⟨k, v⟩ := e
    obtain ⟨hk, hn⟩ := List.nodup_cons.1 hd
    rw [List.filterMap_cons, List.lookup_cons]
    by_cases hkey : key = k
    · subst hkey
      have hnone : d.lookup key = none := lookup_eq_none.2 hk
      cases hf : f key v with
      | none => simpa [hf, hnone] using ih hn
      | some b => simp [hf]
    · cases hf : f k v with
      | none => simpa [hf, beq_false_of_ne hkey] using ih hn
      | some b => simpa [hf, List.lookup_cons, beq_false_of_ne hkey] using ih hn

lemma flatMap_lookup (f : String → α → List β) {d : List (String × α)} (hd : (keys d).Nodup)
    (key : String) : (d.flatMap fun e => if e.1 = key then f e.1 e.2 else []) =
      ((d.lookup key).map (f key)).getD [] := by
  induction d with
  | nil => rfl
  | cons e d ih =>
    obtain ⟨k, v⟩ := e
    obtain ⟨hk, hn⟩ := List.nodup_cons.1 hd
    rw [List.flatMap_cons, ih hn, List.lookup_cons]
    by_cases hkey : key = k
    · subst hkey
      simp [lookup_eq_none.2 hk]
    · simp [beq_false_of_ne hkey, Ne.symm hkey]

lemma keys_filterMap (f : String → α → Option β) (d : List (String × α)) :
    (keys (d.filterMap fun e => (f e.1 e.2).map fun b => (e.1, b))).Sublist (keys d) := by
  induction d with
  | nil => simp
  | cons e d ih =>
    rw [List.filterMap_cons]
    cases f e.1 e.2 with
    | none => exact ih.cons _
    | some b => exact ih.cons_cons _

lemma Sorted.filterMap (f : String → α → Option β) {d : List (String × α)} (hd : Sorted d) :
    Sorted (d.filterMap fun e => (f e.1 e.2).map fun b => (e.1, b)) :=
  List.pairwise_map.1 ((List.pairwise_map.2 hd).sublist (keys_filterMap f d))

section

variable (f : α → β) (key : String) (v : α) (d : List (String × α))

lemma mapValues_insert : mapValues f (insert key v d) = insert key (f v) (mapValues f d) := by
  induction d with
  | nil => rfl
  | cons e d ih =>
    rw [insert, mapValues, mapValues, List.map_cons, insert]
    split
    · rfl
    · split
      · rfl
      · exact congrArg _ ih

lemma mapValues_erase : mapValues f (erase key d) = erase key (mapValues f d) := by
  rw [mapValues, mapValues, erase, erase, List.filter_map]
  rfl

lemma mapValues_update (entries : List (String × α)) :
    mapValues f (update d entries) = update (mapValues f d) (mapValues f entries) := by
  induction entries generalizing d with
  | nil => rfl
  | cons e entries ih =>
    change mapValues f (update (insert e.1 e.2 d) entries) =
      update (insert e.1 (f e.2) (mapValues f d)) (mapValues f entries)
    rw [ih, mapValues_insert]

end

end TypedArtifacts.Dict
