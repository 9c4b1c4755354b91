import TypedArtifacts.Proofs.Bag.Paths
import TypedArtifacts.Proofs.Bag.Properties

namespace TypedArtifacts.Definition

variable {ρ : Type}

structure Branch (ρ : Type) where
  definition : Definition ρ
  value : Option (Value ρ)
  declared : Bool

def branches (d : Definition ρ) (v : Option (Value ρ)) : List (String × Branch ρ) :=
  match d.kind with
  | .dict value => ((v.bind (·.dict?)).getD []).map fun e => (e.1, ⟨value, some e.2, false⟩)
  | .composite keys =>
    keys.map fun e => (e.1, ⟨e.2, ((v.bind (·.dict?)).getD []).lookup e.1, true⟩)
  | _ => []

section

variable {d : Definition ρ} {v : Option (Value ρ)} {e : String × Branch ρ}

lemma isDict_of_mem_branches (he : e ∈ d.branches v) : d.kind.isDict = true := by
  obtain ⟨t, kind⟩ := d
  cases kind with
  | dict value => rfl
  | composite keys => rfl
  | _ => cases he

lemma definition_mem_parts (he : e ∈ d.branches v) : e.2.definition ∈ d.parts := by
  obtain ⟨t, kind⟩ := d
  cases kind with
  | dict value =>
    obtain ⟨x, _, rfl⟩ := List.mem_map.1 he
    exact List.mem_singleton_self _
  | composite keys =>
    obtain ⟨x, hx, rfl⟩ := List.mem_map.1 he
    exact List.mem_map_of_mem hx
  | _ => cases he

lemma valueAt?_branch (hd : d.Built) (he : e ∈ d.branches v) :
    d.valueAt? e.1 = some e.2.definition := by
  have hs := hd.sorted
  obtain ⟨t, kind⟩ := d
  cases kind with
  | dict value =>
    obtain ⟨x, _, rfl⟩ := List.mem_map.1 he
    rfl
  | composite keys =>
    obtain ⟨x, hx, rfl⟩ := List.mem_map.1 he
    exact Dict.lookup_of_mem (hs keys rfl).nodup hx
  | _ => cases he

lemma entries_of_ordered (hv : ∀ w, v = some w → w.Ordered) :
    Dict.Sorted ((v.bind (·.dict?)).getD []) ∧
      ∀ x ∈ (v.bind (·.dict?)).getD [], x.2.Ordered := by
  cases v with
  | none => exact ⟨.nil, by simp⟩
  | some w =>
    cases w with
    | dict es => exact ⟨hv _ rfl es .self, fun x hx => (hv _ rfl).child (Value.mem_children_dict hx)⟩
    | _ => exact ⟨.nil, by simp [Value.dict?]⟩

lemma nodup_branches (hd : d.Built) (hv : ∀ w, v = some w → w.Ordered) :
    (Dict.keys (d.branches v)).Nodup := by
  have hs := hd.sorted
  obtain ⟨t, kind⟩ := d
  cases kind with
  | dict value =>
    have hes := (entries_of_ordered hv).1
    rw [branches, Dict.keys_map fun _ w => (⟨value, some w, false⟩ : Branch ρ)]
    exact hes.nodup
  | composite keys =>
    rw [branches, Dict.keys_map fun k q =>
      (⟨q, ((v.bind (·.dict?)).getD []).lookup k, true⟩ : Branch ρ)]
    exact (hs keys rfl).nodup
  | _ => exact List.nodup_nil

lemma ordered_branch (hv : ∀ w, v = some w → w.Ordered) (he : e ∈ d.branches v) :
    ∀ w, e.2.value = some w → w.Ordered := by
  have hes := (entries_of_ordered hv).2
  obtain ⟨t, kind⟩ := d
  cases kind with
  | dict value =>
    obtain ⟨x, hx, rfl⟩ := List.mem_map.1 he
    intro w hw
    obtain rfl := Option.some.inj hw
    exact hes x hx
  | composite keys =>
    obtain ⟨x, _, rfl⟩ := List.mem_map.1 he
    exact fun w hw => hes _ (Dict.mem_of_lookup hw)
  | _ => cases he

end

section

variable [Referent ρ]

mutual

def pathLeaves : Definition ρ → Option (Value ρ) → Bool → List (List String × BagValue)
  | ⟨_, .dict value⟩, v, _ =>
    let entries := v.bind (·.dict?)
    (ownMark entries).toList.map (fun w => ([], w)) ++
      (entries.getD []).flatMap fun e =>
        (pathLeaves value (some e.2) false).map fun x => (e.1 :: x.1, x.2)
  | ⟨_, .composite keys⟩, v, _ =>
    let entries := v.bind (·.dict?)
    (ownMark entries).toList.map (fun w => ([], w)) ++ pathLeavesOfKeys keys (entries.getD [])
  | d, v, declared => (ownLeaf d v declared).toList.map fun w => ([], w)

def pathLeavesOfKeys : List (String × Definition ρ) → List (String × Value ρ) →
    List (List String × BagValue)
  | [], _ => []
  | (name, d) :: rest, entries =>
    (pathLeaves d (entries.lookup name) true).map (fun x => (name :: x.1, x.2)) ++
      pathLeavesOfKeys rest entries

end

lemma pathLeavesOfKeys_eq (keys : List (String × Definition ρ)) (entries : List (String × Value ρ)) :
    pathLeavesOfKeys keys entries = keys.flatMap fun e =>
      (pathLeaves e.2 (entries.lookup e.1) true).map fun x => (e.1 :: x.1, x.2) := by
  induction keys with
  | nil => rfl
  | cons e keys ih => rw [pathLeavesOfKeys, ih, List.flatMap_cons]

def Branch.spread (b : Branch ρ) : Leaves :=
  Definition.spread b.definition b.value b.declared

def Branch.pathLeaves (b : Branch ρ) : List (List String × BagValue) :=
  Definition.pathLeaves b.definition b.value b.declared

lemma pathLeaves_eq (d : Definition ρ) (v : Option (Value ρ)) (declared : Bool) :
    pathLeaves d v declared = (d.spread v declared).own.toList.map (fun w => ([], w)) ++
      (d.branches v).flatMap fun e => e.2.pathLeaves.map fun x => (e.1 :: x.1, x.2) := by
  obtain ⟨t, kind⟩ := d
  cases kind with
  | dict value =>
    rw [pathLeaves, spread, branches, List.flatMap_map]
    rfl
  | composite keys =>
    rw [pathLeaves, spread, branches, List.flatMap_map, pathLeavesOfKeys_eq]
    rfl
  | _ =>
    rw [pathLeaves, spread]
    · simp [branches]
    all_goals simp

lemma dotted_spread (d : Definition ρ) (v : Option (Value ρ)) (declared : Bool) :
    (d.spread v declared).dotted = Leaves.join ((d.branches v).map fun e => (e.1, e.2.spread)) := by
  obtain ⟨t, kind⟩ := d
  cases kind with
  | dict value =>
    rw [spread, branches, List.map_map]
    rfl
  | composite keys =>
    rw [spread, branches, List.map_map, spreadKeys_eq]
    rfl
  | _ =>
    rw [spread]
    · rfl
    all_goals simp

lemma under_spread (d : Definition ρ) (v : Option (Value ρ)) (declared : Bool) (key : String) :
    (d.spread v declared).under key =
      (pathLeaves d v declared).map fun x => (keyAt key x.1, x.2) := by
  induction d using Definition.induction generalizing v declared key with
  | h d ih =>
    rw [Leaves.under, dotted_spread, pathLeaves_eq, Leaves.join, List.flatMap_map, List.map_append,
      List.map_map, List.map_flatMap, List.map_flatMap]
    congr 1
    apply List.flatMap_congr
    intro e he
    have hbranch := ih _ (definition_mem_parts he) e.2.value e.2.declared e.1
    rw [Branch.spread, hbranch, List.map_map, List.map_map]
    apply List.map_congr_left
    intro x _
    simp only [Function.comp, keyAt_cons]

theorem leaves_eq_pathLeaves (d : Definition ρ) (key : String) (v : Option (Value ρ))
    (declared : Bool) :
    leaves d key v declared = (pathLeaves d v declared).map fun x => (keyAt key x.1, x.2) := by
  rw [leaves_eq, under_spread]

lemma mem_pathLeaves_cons {d : Definition ρ} {v : Option (Value ρ)} {declared : Bool}
    {key : String} {path : List String} {w : BagValue}
    (h : (key :: path, w) ∈ pathLeaves d v declared) :
    ∃ b, (key, b) ∈ d.branches v ∧ (path, w) ∈ b.pathLeaves := by
  rw [pathLeaves_eq] at h
  rcases List.mem_append.1 h with h | h
  · obtain ⟨_, _, h⟩ := List.mem_map.1 h
    cases h
  · obtain ⟨e, he, h⟩ := List.mem_flatMap.1 h
    obtain ⟨x, hx, h⟩ := List.mem_map.1 h
    obtain ⟨hp, rfl⟩ := Prod.mk.inj h
    obtain ⟨rfl, rfl⟩ := List.cons.inj hp
    exact ⟨e.2, he, hx⟩

theorem route_keyAt_iff {d : Definition ρ} (hd : d.Built) {v : Option (Value ρ)} {declared : Bool}
    {key : String} {path : List String} {w : BagValue}
    (h : (key :: path, w) ∈ pathLeaves d v declared) :
    d.route (keyAt key path) = key :: path ↔ d.Clean (key :: path) := by
  induction path generalizing d v declared key with
  | nil =>
    rw [Clean, ← cut_self_iff]
    change d.route key = [key] ↔ _
    rcases cut_cases d key with hc | ⟨k, rest, heq, hc⟩
    · simp [route_whole hc, hc, Clean]
    · obtain ⟨k', path, hr⟩ := route_apart_cons hc
      simp [hr, hc]
  | cons next path ih =>
    obtain ⟨b, hb, hx⟩ := mem_pathLeaves_cons h
    have hp := valueAt?_branch hd hb
    obtain ⟨_, hnext, _⟩ := mem_pathLeaves_cons hx
    have hcut := cut_keyUnder_iff hd.sorted hp (isDict_of_mem_branches hnext) (keyAt next path)
    have hih := ih (hd.parts _ (definition_mem_parts hb)) hx
    rw [keyAt_cons]
    constructor
    · intro hr
      rcases cut_cases d (keyUnder key (keyAt next path)) with hc | ⟨k, rest, heq, hc⟩
      · rw [route_whole hc] at hr
        cases (List.cons.inj hr).2
      · obtain ⟨k', path', hr'⟩ := route_apart_cons hc
        obtain rfl : k = key := (List.cons.inj (hr'.symm.trans hr)).1
        obtain rfl := keyUnder_inj heq
        rw [route_apart hc hp] at hr
        refine ⟨hcut.1 hc, fun q hq => ?_⟩
        obtain rfl : b.definition = q := Option.some.inj (hp.symm.trans hq)
        exact hih.1 (List.cons.inj hr).2
    · rintro ⟨hkey, hdeeper⟩
      rw [route_apart (hcut.2 hkey) hp, hih.2 (hdeeper _ hp)]

def attribution (d : Definition ρ) (key : String) : String × List String :=
  match cutAtDot key with
  | (name, none) => (name, [])
  | (name, some rest) => (name, d.route rest)

lemma attribution_keyAt_iff {d : Definition ρ} (hd : d.Built) {name : String}
    (hname : '.' ∉ name.toList) {v : Option (Value ρ)} {declared : Bool}
    {x : List String × BagValue} (hx : x ∈ pathLeaves d v declared) :
    d.attribution (keyAt name x.1) = (name, x.1) ↔ d.Clean x.1 := by
  obtain ⟨_ | ⟨key, path⟩, w⟩ := x
  · change d.attribution name = (name, []) ↔ True
    simp [attribution, cutAtDot_dotless hname]
  · rw [keyAt_cons, attribution, cutAtDot_keyUnder hname, ← route_keyAt_iff hd hx]
    simp

lemma nodup_paths (d : Definition ρ) (hd : d.Built) {v : Option (Value ρ)}
    (hv : ∀ w, v = some w → w.Ordered) (declared : Bool) :
    ((pathLeaves d v declared).map (·.1)).Nodup := by
  induction d using Definition.induction generalizing v declared with
  | h d ih =>
    rw [pathLeaves_eq, List.map_append, List.map_map, List.map_flatMap]
    refine List.nodup_append.2 ⟨?_, ?_, ?_⟩
    · cases (d.spread v declared).own with
      | none => exact List.nodup_nil
      | some w => exact List.nodup_singleton _
    · refine List.nodup_flatMap.2 ⟨fun e he => ?_, ?_⟩
      · have hb := ih _ (definition_mem_parts he) (hd.parts _ (definition_mem_parts he))
          (ordered_branch hv he) e.2.declared
        have hm := hb.map (f := fun p : List String => e.1 :: p) fun p q h => (List.cons.inj h).2
        rw [List.map_map] at hm ⊢
        exact hm
      · apply (List.pairwise_map.1 (nodup_branches hd hv)).imp
        intro e f hne p hp hq
        obtain ⟨x, hx, rfl⟩ := List.mem_map.1 hp
        obtain ⟨x, _, rfl⟩ := List.mem_map.1 hx
        obtain ⟨y, hy, h⟩ := List.mem_map.1 hq
        obtain ⟨y, _, rfl⟩ := List.mem_map.1 hy
        exact hne (List.cons.inj h).1.symm
    · intro p hp q hq hpq
      obtain ⟨w, _, rfl⟩ := List.mem_map.1 hp
      obtain ⟨e, _, hq⟩ := List.mem_flatMap.1 hq
      obtain ⟨x, hx, rfl⟩ := List.mem_map.1 hq
      obtain ⟨x, _, rfl⟩ := List.mem_map.1 hx
      cases hpq

lemma nodup_keys_of_attributed {d : Definition ρ} (hd : d.Built) {name : String}
    {v : Option (Value ρ)} {declared : Bool} (hv : ∀ w, v = some w → w.Ordered)
    (h : ∀ x ∈ pathLeaves d v declared, d.attribution (keyAt name x.1) = (name, x.1)) :
    ((pathLeaves d v declared).map fun x => keyAt name x.1).Nodup := by
  apply List.Nodup.of_map d.attribution
  have hmap : ((pathLeaves d v declared).map fun x => keyAt name x.1).map d.attribution =
      ((pathLeaves d v declared).map (·.1)).map fun p => (name, p) := by
    rw [List.map_map, List.map_map]
    exact List.map_congr_left h
  rw [hmap]
  exact (nodup_paths d hd hv declared).map fun p q h => (Prod.mk.inj h).2

end

end TypedArtifacts.Definition
