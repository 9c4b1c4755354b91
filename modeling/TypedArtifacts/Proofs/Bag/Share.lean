import TypedArtifacts.Proofs.Bag.Regrouping

namespace TypedArtifacts

open TypedArtifacts.Group Definition

namespace Group

lemma ownAt_filter (key : String) (placed : List Placed) :
    ownAt key (placed.filter fun p => p.key = key) = ownAt key placed := by
  rw [ownAt, List.filterMap_filter]
  apply List.filterMap_congr
  intro p _
  by_cases hp : p.key = key <;> simp [hp]

lemma deeperAt_filter (key : String) (placed : List Placed) :
    deeperAt key (placed.filter fun p => p.key = key) = deeperAt key placed := by
  rw [deeperAt, List.filterMap_filter]
  apply List.filterMap_congr
  intro p _
  by_cases hp : p.key = key <;> simp [hp]

end Group

namespace Leaves

lemma getD_ofProperties_filter (ls : List (String × BagValue)) (name : String) :
    ((ofProperties (ls.filter fun e => (cutAtDot e.1).1 = name)).lookup name).getD {} =
      ((ofProperties ls).lookup name).getD {} := by
  have hgroup : ∀ ls : List (String × BagValue), ((ofProperties ls).lookup name).getD {} =
      ⟨((ownAt name (placeLeaves cutAtDot ls)).getLast?).or none,
        [] ++ deeperAt name (placeLeaves cutAtDot ls)⟩ := fun ls => getD_foldl_add ls [] name
  have hplaced : placeLeaves cutAtDot (ls.filter fun e => (cutAtDot e.1).1 = name) =
      (placeLeaves cutAtDot ls).filter fun p => p.key = name := by
    rw [placeLeaves, placeLeaves, List.filter_map]
    rfl
  rw [hgroup, hgroup, hplaced, ownAt_filter, deeperAt_filter]

end Leaves

namespace Definition

variable {ρ : Type}

lemma readBack_filter (d : Definition ρ) (name : String) (properties : List (String × BagValue)) :
    d.readBack name (properties.filter fun e => (cutAtDot e.1).1 = name) =
      d.readBack name properties := by
  rw [readBack, Leaves.getD_ofProperties_filter, readBack]

end Definition

lemma Leaves.cut_of_mem_under {name : String} (hname : '.' ∉ name.toList) {l : Leaves}
    {e : String × BagValue} (he : e ∈ l.under name) : (cutAtDot e.1).1 = name := by
  rcases List.mem_append.1 he with he | he
  · obtain ⟨v, _, rfl⟩ := List.mem_map.1 he
    rw [cutAtDot_dotless hname]
  · obtain ⟨x, _, rfl⟩ := List.mem_map.1 he
    rw [cutAtDot_keyUnder hname]

namespace Artifact

section

variable [Predicates Artifact] {t : ArtifactType} {a : Artifact}

def share (name : String) (f : Field Artifact) : List (String × BagValue) :=
  Dict.ofList (f.definition.leaves name f.value? false)

lemma Coherent.filter_propertiesOf (h : a.Coherent t) (ht : t.Declared) {name : String}
    {f : Field Artifact} (hf : (name, f) ∈ a.fieldsOf .property) :
    (Bag.propertiesOf a).filter (fun e => (cutAtDot e.1).1 = name) = share name f := by
  have hs : Dict.Sorted (a.fieldsOf .property) := (h.sorted ht).filter _
  rw [Bag.propertiesOf, Dict.filter_ofList fun key => (cutAtDot key).1 = name, share]
  congr 1
  rw [List.filter_flatMap]
  have hleaves : ∀ e ∈ a.fieldsOf .property,
      (e.2.definition.leaves e.1 e.2.value? false).filter (fun x => (cutAtDot x.1).1 = name) =
        if e.1 = name then e.2.definition.leaves e.1 e.2.value? false else [] := by
    intro e he
    have hcut : ∀ x ∈ e.2.definition.leaves e.1 e.2.value? false, (cutAtDot x.1).1 = e.1 := by
      intro x hx
      rw [leaves_eq] at hx
      exact Leaves.cut_of_mem_under (h.dotless ht (mem_fieldsOf.1 he).1) hx
    split
    · rename_i hn
      exact List.filter_eq_self.2 fun x hx => by simp [hcut x hx, hn]
    · rename_i hn
      exact List.filter_eq_nil_iff.2 fun x hx => by simp [hcut x hx, hn]
  rw [List.flatMap_congr hleaves,
    Dict.flatMap_lookup (fun name (f : Field Artifact) => f.definition.leaves name f.value? false)
      hs.nodup,
    Dict.lookup_of_mem hs.nodup hf]
  rfl

end

end Artifact

end TypedArtifacts
