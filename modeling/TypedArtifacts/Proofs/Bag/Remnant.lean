import TypedArtifacts.Proofs.Bag.Regrouping

/-! What the leaves of a property keep of its value. -/

namespace TypedArtifacts.Definition

open TypedArtifacts.Group

variable {ρ : Type} [Referent ρ]

mutual

def remnant : Definition ρ → Value ρ → Json
  | ⟨_, .dict value⟩, .dict es =>
    close es.isEmpty (es.flatMap fun e => present e.1 (remnant value e.2))
  | ⟨_, .composite keys⟩, .dict es =>
    close es.isEmpty (es.flatMap fun e => present e.1 (remnantKey keys e.1 e.2))
  | d, v =>
    match d.storedType? with
    | some t => BagValue.plain (some t) (storedJson v d)
    | none => .null

def remnantKey : List (String × Definition ρ) → String → Value ρ → Json
  | [], _, _ => .null
  | (k, d) :: rest, key, v => if key = k then remnant d v else remnantKey rest key v

end

def remnantAt (d : Definition ρ) (key : String) (v : Value ρ) : Json :=
  match d.kind with
  | .dict value => value.remnant v
  | .composite keys => remnantKey keys key v
  | _ => .null

lemma remnantKey_lookup {keys : List (String × Definition ρ)} {key : String} {d : Definition ρ}
    (h : keys.lookup key = some d) (v : Value ρ) : remnantKey keys key v = d.remnant v := by
  apply Dict.search_of_lookup _ h
  intro _ _ _
  rw [remnantKey]

lemma remnantAt_of_valueAt? {d p : Definition ρ} {key : String} (h : d.valueAt? key = some p)
    (v : Value ρ) : d.remnantAt key v = p.remnant v := by
  obtain ⟨t, kind⟩ := d
  cases kind with
  | dict value =>
    obtain rfl := Option.some.inj h
    rfl
  | composite keys => exact remnantKey_lookup h v
  | _ => cases h

lemma remnant_dict {d : Definition ρ} (hd : d.kind.isDict = true) (es : List (String × Value ρ)) :
    d.remnant (.dict es) =
      close es.isEmpty (es.flatMap fun e => present e.1 (d.remnantAt e.1 e.2)) := by
  obtain ⟨t, kind⟩ := d
  cases kind with
  | dict value =>
    rw [remnant]
    rfl
  | composite keys =>
    rw [remnant]
    rfl
  | _ => cases hd

lemma remnant_leaf {d : Definition ρ} (hd : d.kind.isDict = false) (v : Value ρ) :
    d.remnant v =
      (d.storedType?.map fun t => BagValue.plain (some t) (storedJson v d)).getD .null := by
  obtain ⟨t, kind⟩ := d
  cases kind with
  | dict value => cases hd
  | composite keys => cases hd
  | _ =>
    rw [remnant]
    · cases storedType? _ <;> rfl
    all_goals simp

section

variable {d : Definition ρ} {v : Option (Value ρ)} {declared : Bool} {ls : List (String × BagValue)}

lemma toJson_leaf (hd : d.kind.isDict = false) (hls : ls.Perm (d.spread v declared).dotted) :
    Leaves.toJson d ⟨(d.spread v declared).own, ls⟩ = (v.map d.remnant).getD .null := by
  rw [spread_leaf hd] at hls ⊢
  obtain rfl := hls.eq_nil
  have hempty : Leaves.toJson d ⟨none, []⟩ = .null := Leaves.gather_empty d
  cases ht : d.storedType? with
  | none => cases v <;> simp [ownLeaf, ht, hempty, remnant_leaf hd]
  | some t =>
    have hne := storedType?_ne_dict ht
    cases v with
    | none =>
      cases declared with
      | true => simp [ownLeaf, ht, Leaves.toJson, BagValue.null, hne, BagValue.plain]
      | false => simpa [ownLeaf, ht] using hempty
    | some w => simp [ownLeaf, ht, Leaves.toJson, hne, remnant_leaf hd]

omit [Referent ρ] in
lemma value_branch {entries : Option (List (String × Value ρ))} (hs : Dict.Sorted (entries.getD []))
    {e : String × Branch ρ} (he : e ∈ d.branches (entries.map .dict)) :
    e.2.value = (entries.getD []).lookup e.1 := by
  obtain ⟨t, kind⟩ := d
  cases kind with
  | dict value =>
    rw [branches, bind_dict?] at he
    obtain ⟨x, hx, rfl⟩ := List.mem_map.1 he
    exact (Dict.lookup_of_mem hs.nodup hx).symm
  | composite keys =>
    rw [branches, bind_dict?] at he
    obtain ⟨x, _, rfl⟩ := List.mem_map.1 he
    rfl
  | _ => cases he

omit [Referent ρ] in
lemma exists_branch {entries : Option (List (String × Value ρ))}
    (hc : ∀ w, entries.map Value.dict = some w → d.Conforms w) {key : String}
    (h : key ∈ Dict.keys (entries.getD [])) :
    key ∈ Dict.keys (d.branches (entries.map .dict)) := by
  cases entries with
  | none => cases h
  | some es =>
    obtain ⟨e, he, rfl⟩ := List.mem_map.1 h
    cases hc _ rfl with
    | @scalar _ s _ hs => cases s <;> cases hs.1
    | dict => exact Dict.mem_keys_of_mem (List.mem_map_of_mem he)
    | composite _ hdecl _ =>
      obtain ⟨p, hp⟩ := Option.isSome_iff_exists.1 (hdecl e he)
      exact Dict.mem_keys_of_mem (List.mem_map_of_mem (Dict.mem_of_lookup hp))

omit [Referent ρ] in
lemma conforms_branch (hd : d.Built) (hc : ∀ w, v = some w → d.Conforms w)
    {e : String × Branch ρ} (he : e ∈ d.branches v) :
    ∀ w, e.2.value = some w → e.2.definition.Conforms w := by
  intro w hw
  have hp := valueAt?_branch hd he
  obtain ⟨entries, rfl⟩ := entries_of_conforms (isDict_of_mem_branches he) hc
  obtain ⟨t, kind⟩ := d
  cases entries with
  | none =>
    cases kind with
    | composite keys =>
      obtain ⟨x, _, rfl⟩ := List.mem_map.1 he
      cases hw
    | _ => cases he
  | some es =>
    cases hc _ rfl with
    | @scalar _ s _ hs => cases s <;> cases hs.1
    | dict _ hall =>
      obtain ⟨x, hx, rfl⟩ := List.mem_map.1 he
      obtain rfl := Option.some.inj hw
      exact hall x hx
    | @composite _ keys _ hsorted _ hall =>
      obtain ⟨x, hx, rfl⟩ := List.mem_map.1 he
      exact hall (x.1, w) (Dict.mem_of_lookup hw) x.2 hp

lemma lookup_no_branch (hd : d.Built) (hv : ∀ w, v = some w → w.Ordered)
    (h : d.AllClean v declared) (hls : ls.Perm (d.spread v declared).dotted) {key : String}
    (hk : key ∉ Dict.keys (d.branches v)) :
    (fieldsFrom (placeLeaves d.cut ls) d.gatherAt).lookup key = none := by
  rw [dotted_spread] at hls
  have hkeys : Dict.keys ((d.branches v).map fun e => (e.1, e.2.spread)) =
      Dict.keys (d.branches v) := Dict.keys_map (fun _ (b : Branch ρ) => b.spread) _
  have hpart : Leaves.partAt key ((d.branches v).map fun e => (e.1, e.2.spread)) = {} := by
    rw [Leaves.partAt, Dict.lookup_eq_none.2 (hkeys ▸ hk)]
    rfl
  obtain ⟨ls', hls', hl⟩ := Leaves.lookup_fieldsFrom (cuts_branches hd h)
    (hkeys ▸ nodup_branches hd hv) hls d.gatherAt_empty key
  rw [hpart] at hls' hl
  obtain rfl := List.perm_nil.1 hls'
  have hgather := d.gatherAt_empty key
  simp [hl, Leaves.isMark, hgather, Json.nonNull?, Json.isNull]

lemma own_dict (hd : d.kind.isDict = true) (entries : Option (List (String × Value ρ))) :
    (d.spread (entries.map .dict) declared).own = ownMark entries := by
  obtain ⟨t, kind⟩ := d
  cases kind with
  | dict value => rw [spread_dict]
  | composite keys => rw [spread_composite]
  | _ => cases hd

lemma fieldsFrom_remnant (hd : d.Built) {entries : Option (List (String × Value ρ))}
    (hc : ∀ w, entries.map Value.dict = some w → d.Conforms w)
    (hv : ∀ w, entries.map Value.dict = some w → w.Ordered)
    (h : d.AllClean (entries.map .dict) declared)
    (hls : ls.Perm (d.spread (entries.map .dict) declared).dotted)
    (hbranch : ∀ e ∈ d.branches (entries.map .dict), ∀ ls', ls'.Perm e.2.spread.dotted →
      Leaves.toJson e.2.definition ⟨e.2.spread.own, ls'⟩ =
        (e.2.value.map e.2.definition.remnant).getD .null) :
    fieldsFrom (placeLeaves d.cut ls) d.gatherAt =
      (entries.getD []).flatMap fun e => present e.1 (d.remnantAt e.1 e.2) := by
  have hs : Dict.Sorted (entries.getD []) := by
    have hsorted := (entries_of_ordered hv).1
    rwa [bind_dict?] at hsorted
  have hpresent : ((entries.getD []).flatMap fun e => present e.1 (d.remnantAt e.1 e.2)) =
      (entries.getD []).filterMap fun e =>
        ((d.remnantAt e.1 e.2).nonNull?).map fun j => (e.1, j) := by
    rw [List.filterMap_eq_flatMap_toList]
    exact List.flatMap_congr fun e _ => present_eq _ _
  rw [hpresent]
  apply (sorted_fieldsFrom _ _).ext (hs.filterMap fun k w => (d.remnantAt k w).nonNull?)
  intro key
  rw [Dict.lookup_filterMap (fun k w => (d.remnantAt k w).nonNull?) hs.nodup]
  by_cases hk : key ∈ Dict.keys (d.branches (entries.map .dict))
  · obtain ⟨⟨_, b⟩, hb, rfl⟩ := List.mem_map.1 hk
    obtain ⟨ls', hls', hl⟩ := lookup_branch hd hv h hls hb
    rw [hl, hbranch _ hb ls' hls', ← value_branch hs hb]
    cases hw : b.value with
    | none => rfl
    | some w => simp [remnantAt_of_valueAt? (valueAt?_branch hd hb)]
  · have habsent : (entries.getD []).lookup key = none :=
      Dict.lookup_eq_none.2 (mt (exists_branch hc) hk)
    rw [lookup_no_branch hd hv h hls hk, habsent]
    rfl

theorem toJson_remnant (hd : d.Built) (hc : ∀ w, v = some w → d.Conforms w)
    (hv : ∀ w, v = some w → w.Ordered) (h : d.AllClean v declared)
    (hls : ls.Perm (d.spread v declared).dotted) :
    Leaves.toJson d ⟨(d.spread v declared).own, ls⟩ = (v.map d.remnant).getD .null := by
  induction d using Definition.induction generalizing v declared ls with
  | h d ih =>
    by_cases hdict : d.kind.isDict = true
    · -- The leaves below a key are those of its branch, which are put together on their own.
      obtain ⟨entries, rfl⟩ := entries_of_conforms hdict hc
      have hfields := fieldsFrom_remnant hd hc hv h hls fun e he ls' hls' =>
        ih _ (definition_mem_parts he) (hd.parts _ (definition_mem_parts he))
          (conforms_branch hd hc he) (ordered_branch hv he) (h.branch hd he) hls'
      rw [own_dict hdict, Leaves.toJson_mark isMark_of_ownMark, gather_eq, hfields]
      rcases entries with _ | _ | ⟨e, es⟩
      · rfl
      · simp [remnant_dict hdict, ownMark, Leaves.isMark, BagValue.emptyDict]
      · simp [remnant_dict hdict, ownMark, Leaves.isMark]
    · exact toJson_leaf (by simpa using hdict) hls

theorem readBack_remnant (hd : d.Built) {name : String} (hname : '.' ∉ name.toList)
    (hc : ∀ w, v = some w → d.Conforms w) (hv : ∀ w, v = some w → w.Ordered)
    (h : d.AllClean v false) :
    d.readBack name (Dict.ofList (d.leaves name v false)) = (v.map d.remnant).getD .null := by
  have hread : ∀ x ∈ pathLeaves d v false, d.attribution (keyAt name x.1) = (name, x.1) :=
    fun x hx => (attribution_keyAt_iff hd hname hx).2 (h x hx)
  have hnodup : (Dict.keys (d.leaves name v false)).Nodup := by
    rw [leaves_eq_pathLeaves, Dict.keys, List.map_map]
    exact nodup_keys_of_attributed hd hv hread
  have hperm : (Dict.ofList (d.leaves name v false)).Perm ((d.spread v false).under name ++ []) := by
    rw [List.append_nil, ← leaves_eq]
    exact Dict.ofList_perm hnodup
  have hothers : ∀ e ∈ ([] : List (String × BagValue)), (cutAtDot e.1).1 ≠ name :=
    List.forall_mem_nil _
  obtain ⟨hown, hdotted⟩ := getD_ofProperties_attribute hname hothers hperm
  have hjson := toJson_remnant hd hc hv h hdotted
  rwa [← hown] at hjson

end

end TypedArtifacts.Definition
