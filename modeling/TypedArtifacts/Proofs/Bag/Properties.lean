import TypedArtifacts.Bag.OfArtifact
import TypedArtifacts.Proofs.Bag.Gather

namespace TypedArtifacts

namespace Definition

variable {ρ : Type} [Referent ρ]

theorem nodup_spread (d : Definition ρ) (hr : d.Regular) (hd : d.Flattenable)
    {v : Option (Value ρ)} (hv : ∀ w, v = some w → d.Faithful w) (declared : Bool) :
    (Dict.keys (spread d v declared).dotted).Nodup := by
  induction d using Definition.induction generalizing v declared with
  | h d ih =>
    obtain ⟨t, kind⟩ := d
    cases kind with
    | dict value =>
      obtain ⟨entries, rfl, hs, hall, hdot⟩ := faithful_dict hv
      rw [spread_dict]
      apply Leaves.nodup_join (cuts_dictParts hdot) (nodup_dictParts value hs)
      intro e he
      obtain ⟨x, hx, rfl⟩ := List.mem_map.1 he
      have hm : value ∈ (mk t (.dict value)).parts := List.mem_singleton_self _
      exact ih value hm (hr.part hm) (hd.part hm) (by rintro _ ⟨⟩; exact hall x hx) false
    | composite keys =>
      obtain ⟨entries, rfl, _, hall⟩ := faithful_composite hv
      rw [spread_composite]
      have hs := hr.built.sorted keys rfl
      have hu := hd.unambiguous _ .self keys rfl
      apply Leaves.nodup_join (cuts_keyParts hu _) (nodup_keyParts hs _)
      intro e he
      obtain ⟨x, hx, rfl⟩ := List.mem_map.1 he
      have hm : x.2 ∈ (mk t (.composite keys)).parts := List.mem_map_of_mem hx
      refine ih x.2 hm (hr.part hm) (hd.part hm) (fun w hw => ?_) true
      obtain ⟨d, hl, hf⟩ := hall _ (Dict.mem_of_lookup hw)
      obtain rfl : x.2 = d := Option.some.inj ((Dict.lookup_of_mem hs.nodup hx).symm.trans hl)
      exact hf
    | _ =>
      rw [spread_leaf rfl]
      exact List.nodup_nil

end Definition

namespace Leaves

open TypedArtifacts.Group Definition

lemma getD_add (key : String) (v : BagValue) (groups : List (String × Leaves)) (name : String) :
    ((add key v groups).lookup name).getD {} =
      ⟨((ownAt name (placeLeaves cutAtDot [(key, v)])).getLast?).or
          ((groups.lookup name).getD {}).own,
        ((groups.lookup name).getD {}).dotted ++ deeperAt name (placeLeaves cutAtDot [(key, v)])⟩ := by
  rw [add]
  rcases hc : cutAtDot key with ⟨k, _ | rest⟩
  · simp only [Dict.lookup_insert]
    by_cases h : name = k
    · subst h
      simp [placeLeaves, hc, ownAt, deeperAt]
    · simp [placeLeaves, hc, ownAt, deeperAt, h, Ne.symm h]
  · simp only [Dict.lookup_insert]
    by_cases h : name = k
    · subst h
      simp [placeLeaves, hc, ownAt, deeperAt]
    · simp [placeLeaves, hc, ownAt, deeperAt, h, Ne.symm h]

lemma placeLeaves_cons (cut : String → String × Option String) (e : String × BagValue)
    (ls : List (String × BagValue)) :
    placeLeaves cut (e :: ls) = placeLeaves cut [e] ++ placeLeaves cut ls := rfl

lemma getD_foldl_add (ls : List (String × BagValue)) (groups : List (String × Leaves))
    (name : String) :
    ((ls.foldl (fun groups e => add e.1 e.2 groups) groups).lookup name).getD {} =
      ⟨((ownAt name (placeLeaves cutAtDot ls)).getLast?).or ((groups.lookup name).getD {}).own,
        ((groups.lookup name).getD {}).dotted ++ deeperAt name (placeLeaves cutAtDot ls)⟩ := by
  induction ls generalizing groups with
  | nil => simp [placeLeaves, ownAt, deeperAt]
  | cons e ls ih =>
    rw [List.foldl_cons, ih, getD_add, placeLeaves_cons cutAtDot e ls]
    simp only [ownAt, deeperAt, List.filterMap_append, List.getLast?_append, List.append_assoc,
      Option.or_assoc]

lemma mem_keys_add {key name : String} {v : BagValue} {groups : List (String × Leaves)} :
    name ∈ Dict.keys (add key v groups) ↔ name = (cutAtDot key).1 ∨ name ∈ Dict.keys groups := by
  unfold add
  rcases hc : cutAtDot key with ⟨k, _ | rest⟩ <;> simp only [Dict.mem_keys_insert_iff]

lemma mem_keys_ofProperties {ls : List (String × BagValue)} {name : String} :
    name ∈ Dict.keys (ofProperties ls) ↔ ∃ e ∈ ls, (cutAtDot e.1).1 = name := by
  have hfold : ∀ groups : List (String × Leaves),
      name ∈ Dict.keys (ls.foldl (fun groups e => add e.1 e.2 groups) groups) ↔
        name ∈ Dict.keys groups ∨ ∃ e ∈ ls, (cutAtDot e.1).1 = name := by
    induction ls with
    | nil => simp
    | cons e ls ih =>
      intro groups
      rw [List.foldl_cons, ih, mem_keys_add, List.exists_mem_cons_iff, eq_comm (a := name)]
      tauto
  exact (hfold []).trans (by simp)

lemma sorted_ofProperties (ls : List (String × BagValue)) : Dict.Sorted (ofProperties ls) := by
  have hadd : ∀ (e : String × BagValue) {groups : List (String × Leaves)}, Dict.Sorted groups →
      Dict.Sorted (add e.1 e.2 groups) := by
    intro e groups hg
    unfold add
    split <;> exact hg.insert _ _
  have hfold : ∀ {groups : List (String × Leaves)}, Dict.Sorted groups →
      Dict.Sorted (ls.foldl (fun groups e => add e.1 e.2 groups) groups) := by
    induction ls with
    | nil => exact fun hg => hg
    | cons e ls ih => exact fun hg => ih (hadd e hg)
  exact hfold .nil

section

variable {parts : List (String × Leaves)} {ls : List (String × BagValue)}

lemma getD_ofProperties (hc : Cuts cutAtDot parts) (hn : (Dict.keys parts).Nodup)
    (hp : ls.Perm (join parts)) (name : String) :
    (((ofProperties ls).lookup name).getD {}).own = (partAt name parts).own ∧
      (((ofProperties ls).lookup name).getD {}).dotted.Perm (partAt name parts).dotted := by
  have hg : ((ofProperties ls).lookup name).getD {} =
      ⟨((ownAt name (placeLeaves cutAtDot ls)).getLast?).or none,
        [] ++ deeperAt name (placeLeaves cutAtDot ls)⟩ := getD_foldl_add ls [] name
  rw [hg, ownAt_perm hc hn hp]
  refine ⟨?_, deeperAt_perm hc hn hp name⟩
  cases (partAt name parts).own <;> rfl

lemma key_mem_parts (hc : Cuts cutAtDot parts) (hp : ls.Perm (join parts)) {name : String}
    (h : name ∈ Dict.keys (ofProperties ls)) : name ∈ Dict.keys parts := by
  obtain ⟨e, he, rfl⟩ := mem_keys_ofProperties.1 h
  have hpm : ⟨(cutAtDot e.1).1, (cutAtDot e.1).2, e.2⟩ ∈ placeLeaves cutAtDot ls :=
    List.mem_map_of_mem he
  obtain ⟨x, hx, hpx⟩ := List.mem_flatMap.1 ((placeLeaves_perm hc hp).mem_iff.1 hpm)
  have hxk : (cutAtDot e.1).1 = x.1 := by
    rcases List.mem_append.1 hpx with hm | hm
    · obtain ⟨_, _, hm⟩ := List.mem_map.1 hm
      exact (Placed.mk.inj hm).1.symm
    · obtain ⟨_, _, hm⟩ := List.mem_map.1 hm
      exact (Placed.mk.inj hm).1.symm
  rw [hxk]
  exact Dict.mem_keys_of_mem hx

theorem mem_ofProperties (hc : Cuts cutAtDot parts) (hn : (Dict.keys parts).Nodup)
    (hp : ls.Perm (join parts)) {e : String × Leaves} (he : e ∈ ofProperties ls) :
    ∃ l, (e.1, l) ∈ parts ∧ e.2.own = l.own ∧ e.2.dotted.Perm l.dotted := by
  obtain ⟨x, hx, hxe⟩ := List.mem_map.1 (key_mem_parts hc hp (Dict.mem_keys_of_mem he))
  have hg := getD_ofProperties hc hn hp e.1
  rw [Dict.lookup_of_mem (sorted_ofProperties ls).nodup he, partAt,
    Dict.lookup_of_mem hn (show (e.1, x.2) ∈ parts from hxe ▸ hx)] at hg
  exact ⟨x.2, hxe ▸ hx, hg⟩

theorem eq_empty_of_absent (hc : Cuts cutAtDot parts) (hn : (Dict.keys parts).Nodup)
    (hp : ls.Perm (join parts)) {e : String × Leaves} (he : e ∈ parts)
    (h : e.1 ∉ Dict.keys (ofProperties ls)) : e.2 = {} := by
  obtain ⟨hown, hdotted⟩ := getD_ofProperties hc hn hp e.1
  rw [Dict.lookup_eq_none.2 h, partAt, Dict.lookup_of_mem hn he] at hown hdotted
  obtain ⟨_, own, dotted⟩ := e
  obtain rfl : none = own := hown
  obtain rfl : [] = dotted := List.nil_perm.1 hdotted ▸ rfl
  rfl

end

end Leaves

end TypedArtifacts
