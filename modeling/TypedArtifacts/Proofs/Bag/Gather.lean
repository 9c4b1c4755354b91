import TypedArtifacts.Proofs.Bag.Stored

namespace TypedArtifacts

variable {ρ : Type}

namespace Definition

def Dotless (d : Definition ρ) (v : Value ρ) : Prop :=
  ∀ p es, Governs p (.dict es) d v → ∀ value, p.kind = .dict value → value.kind.isDict = true →
    ∀ e ∈ es, '.' ∉ e.1.toList

lemma Dotless.entry {d q : Definition ρ} {es : List (String × Value ρ)} (h : d.Dotless (.dict es))
    {e : String × Value ρ} (hq : d.valueAt? e.1 = some q) (he : e ∈ es) : q.Dotless e.2 :=
  fun p es' hg => h p es' (.entry hq he hg)

/-- A definition whose values keep their form as leaves. -/
structure Flattenable (d : Definition ρ) : Prop where
  plain : d.Plain
  flat : d.Flat
  unambiguous : ∀ p : Definition ρ, p.Within d → ∀ keys, p.kind = .composite keys →
    Unambiguous (Dict.keys keys)

lemma Flattenable.part {d p : Definition ρ} (h : d.Flattenable) (hp : p ∈ d.parts) :
    p.Flattenable where
  plain := h.plain.part hp
  flat := h.flat.part hp
  unambiguous q hq := h.unambiguous q (hq.trans (within_of_mem hp))

lemma flattenable_of_parts {d : Definition ρ}
    (hk : d.kind.isRelation = false ∧ d.kind.isBlob = false)
    (hl : d.kind.isList = true → ∀ q ∈ d.parts, q.kind.isDict = false)
    (hu : ∀ keys, d.kind = .composite keys → Unambiguous (Dict.keys keys))
    (h : ∀ q ∈ d.parts, q.Flattenable) : d.Flattenable where
  plain := forall_within hk fun q hq => (h q hq).plain
  flat := forall_within hl fun q hq => (h q hq).flat
  unambiguous := forall_within hu fun q hq => (h q hq).unambiguous

end Definition

namespace Group

def fieldsFrom (placed : List Placed) (gatherAt : String → Group → Json) : List (String × Json) :=
  Dict.update (Dict.ofList (direct placed))
    ((nested placed []).flatMap fun e => present e.1 (gatherAt e.1 e.2))

lemma flatMap_present (groups : List (String × Group)) (gatherAt : String → Group → Json) :
    (groups.flatMap fun e => present e.1 (gatherAt e.1 e.2)) =
      groups.filterMap fun e => ((gatherAt e.1 e.2).nonNull?).map fun j => (e.1, j) := by
  rw [List.filterMap_eq_flatMap_toList]
  exact List.flatMap_congr fun e _ => present_eq _ _

lemma sorted_fieldsFrom (placed : List Placed) (gatherAt : String → Group → Json) :
    Dict.Sorted (fieldsFrom placed gatherAt) :=
  (Dict.sorted_ofList _).update _

end Group

namespace Leaves

open TypedArtifacts.Group Definition

section

variable {cut : String → String × Option String} {parts : List (String × Leaves)}
  {ls : List (String × BagValue)}

theorem lookup_fieldsFrom (hc : Cuts cut parts) (hn : (Dict.keys parts).Nodup)
    (hp : ls.Perm (join parts)) {gatherAt : String → Group → Json}
    (h0 : ∀ key, gatherAt key {} = .null) (key : String) :
    ∃ ls', ls'.Perm (partAt key parts).dotted ∧
      (fieldsFrom (placeLeaves cut ls) gatherAt).lookup key =
        ((gatherAt key ⟨isMark (partAt key parts).own, ls'⟩).nonNull?).or
          ((partAt key parts).own.bind fieldOf) := by
  refine ⟨deeperAt key (placeLeaves cut ls), deeperAt_perm hc hn hp key, ?_⟩
  have hdirect : (Dict.ofList (direct (placeLeaves cut ls))).lookup key =
      (partAt key parts).own.bind fieldOf := by
    have hk := hn.sublist (Dict.keys_filterMap (fun _ (l : Leaves) => l.own.bind fieldOf) parts)
    have hperm := direct_perm hc hp
    have hk' := (Dict.keys_perm hperm).nodup_iff.2 hk
    rw [Dict.lookup_ofList hk', Dict.lookup_perm hk' hperm,
      Dict.lookup_filterMap (fun _ (l : Leaves) => l.own.bind fieldOf) hn, partAt]
    cases parts.lookup key <;> rfl
  have hgroup : ((nested (placeLeaves cut ls) []).lookup key).getD {} =
      ⟨isMark (partAt key parts).own, deeperAt key (placeLeaves cut ls)⟩ := by
    rw [getD_nested, markedAt, ownAt_perm hc hn hp]
    cases (partAt key parts).own <;> simp [isMark]
  have hsorted := sorted_nested (placeLeaves cut ls) (List.Pairwise.nil : Dict.Sorted [])
  rw [fieldsFrom, flatMap_present, Dict.lookup_update, hdirect,
    Dict.lookup_filterMap (fun k g => (gatherAt k g).nonNull?) hsorted.nodup, ← hgroup]
  · congr 1
    cases (nested (placeLeaves cut ls) []).lookup key with
    | none => simp [h0, Json.nonNull?, Json.isNull]
    | some g => rfl
  · exact hsorted.nodup.sublist (Dict.keys_filterMap (fun k g => (gatherAt k g).nonNull?) _)

end

lemma gather_empty (d : Definition ρ) : d.gather {} = .null := by
  obtain ⟨t, kind⟩ := d
  cases kind <;> rfl

lemma nonNull?_plain (t : StoredType) (j : Json) :
    (BagValue.plain (some t) j).nonNull? = (j.nonNull?).map (BagValue.plain (some t)) := by
  cases j with
  | arr items =>
    rw [BagValue.plain]
    split <;> simp [Json.nonNull?, Json.isNull, BagValue.plain, *]
  | _ => simp [Json.nonNull?, Json.isNull, BagValue.plain]

lemma toJson_mark {d : Definition ρ} {l : Leaves} (h : ∀ v, l.own = some v → v.type = .dict) :
    l.toJson d = d.gather ⟨isMark l.own, l.dotted⟩ := by
  unfold toJson
  split
  · rename_i v hv
    simp [h v hv]
  · rename_i hv
    simp [hv, isMark]

lemma nonNull?_toJson {d : Definition ρ} {l : Leaves} (h : l.Tidy) :
    ((d.gather ⟨isMark l.own, l.dotted⟩).nonNull?).or (l.own.bind fieldOf) =
      (l.toJson d).nonNull? := by
  obtain ⟨own, dotted⟩ := l
  cases own with
  | none => simp [toJson, isMark]
  | some v =>
    by_cases ht : v.type = .dict
    · simp [toJson, isMark, fieldOf, ht]
    · obtain rfl : dotted = [] := h v rfl ht
      have hg : d.gather ⟨isMark (some v), []⟩ = .null := by
        have hmark : isMark (some v) = false := by simp [isMark, ht]
        rw [hmark]
        exact gather_empty d
      have hj : toJson d ⟨some v, []⟩ = BagValue.plain (some v.type) v.value := by
        simp [toJson, ht]
      rw [hg, hj, nonNull?_plain]
      simp [Json.nonNull?, Json.isNull, fieldOf, ht]

end Leaves

namespace Definition

open TypedArtifacts.Group

section

variable [Referent ρ]

structure Faithful (d : Definition ρ) (v : Value ρ) : Prop where
  conforms : d.Conforms v
  expressible : v.Expressible
  dotless : d.Dotless v

def jsonOf (v : Option (Value ρ)) : Json :=
  (v.map Value.toJson).getD .null

lemma nonNull?_jsonOf {v : Option (Value ρ)} (h : ∀ w, v = some w → w.Expressible) :
    (jsonOf v).nonNull? = v.map Value.toJson := by
  cases v with
  | none => rfl
  | some w =>
    have hw := Value.toJson_ne_null (h w rfl)
    cases hj : w.toJson <;> simp_all [jsonOf, Json.nonNull?, Json.isNull]

omit [Referent ρ] in
lemma isMark_of_ownMark {entries : Option (List (String × Value ρ))} :
    ∀ v, ownMark entries = some v → v.type = .dict := by
  rcases entries with _ | _ | ⟨e, es⟩
  · exact fun v hv => nomatch hv
  · rintro v ⟨⟩
    rfl
  · exact fun v hv => nomatch hv

lemma close_ownMark (entries : Option (List (String × Value ρ))) :
    close (Leaves.isMark (ownMark entries)) ((entries.getD []).map fun e => (e.1, e.2.toJson)) =
      jsonOf (entries.map .dict) := by
  rcases entries with _ | _ | ⟨e, es⟩
  · rfl
  · simp [close, ownMark, Leaves.isMark, BagValue.emptyDict, jsonOf, Value.toJson,
      Value.entriesToJson_eq]
  · simp [close, jsonOf, Value.toJson, Value.entriesToJson_eq]

omit [Referent ρ] in
lemma gatherKey_empty (keys : List (String × Definition ρ)) (key : String) :
    gatherKey keys key {} = .null := by
  induction keys with
  | nil => rfl
  | cons e keys ih =>
    rw [gatherKey]
    split
    · exact Leaves.gather_empty _
    · exact ih

omit [Referent ρ] in
lemma gatherKey_lookup {keys : List (String × Definition ρ)} {key : String} {d : Definition ρ}
    (h : keys.lookup key = some d) (g : Group) : gatherKey keys key g = d.gather g := by
  apply Dict.search_of_lookup _ h
  intro _ _ _
  simp only [gatherKey, eq_comm]

def dictParts (value : Definition ρ) (es : List (String × Value ρ)) : List (String × Leaves) :=
  es.map fun e => (e.1, spread value (some e.2) false)

def keyParts (keys : List (String × Definition ρ)) (es : List (String × Value ρ)) :
    List (String × Leaves) :=
  keys.map fun e => (e.1, spread e.2 (es.lookup e.1) true)

lemma spread_leaf {d : Definition ρ} (h : d.kind.isDict = false) (v : Option (Value ρ))
    (declared : Bool) : spread d v declared = ⟨ownLeaf d v declared, []⟩ := by
  obtain ⟨t, kind⟩ := d
  cases kind with
  | dict value => cases h
  | composite keys => cases h
  | _ =>
    rw [spread]
    all_goals simp

lemma cuts_dictParts {value : Definition ρ} {es : List (String × Value ρ)}
    (h : value.kind.isDict = true → ∀ e ∈ es, '.' ∉ e.1.toList) :
    Cuts (fun text => if value.kind.isDict then cutAtDot text else (text, none))
      (dictParts value es) := by
  cases hd : value.kind.isDict with
  | true =>
    refine ⟨fun e he _ => ?_, fun e he f _ => ?_⟩
    · obtain ⟨x, hx, rfl⟩ := List.mem_map.1 he
      exact cutAtDot_dotless (h hd x hx)
    · obtain ⟨x, hx, rfl⟩ := List.mem_map.1 he
      exact cutAtDot_keyUnder (h hd x hx) _
  | false =>
    refine ⟨fun e _ _ => rfl, fun e he f hf => ?_⟩
    obtain ⟨x, hx, rfl⟩ := List.mem_map.1 he
    simp [spread_leaf hd] at hf

lemma cuts_keyParts {keys : List (String × Definition ρ)} (h : Unambiguous (Dict.keys keys))
    (es : List (String × Value ρ)) : Cuts (declaredCut keys) (keyParts keys es) := by
  refine ⟨fun e he _ => ?_, fun e he f _ => ?_⟩
  · obtain ⟨x, hx, rfl⟩ := List.mem_map.1 he
    exact declaredCut_self h (Dict.mem_keys_of_mem hx)
  · obtain ⟨x, hx, rfl⟩ := List.mem_map.1 he
    exact declaredCut_keyUnder h (Dict.mem_keys_of_mem hx) _

def Returns (d : Definition ρ) : Prop :=
  ∀ (v : Option (Value ρ)) (declared : Bool) (ls : List (String × BagValue)),
    (∀ w, v = some w → d.Faithful w) → ls.Perm (spread d v declared).dotted →
    Leaves.toJson d ⟨(spread d v declared).own, ls⟩ = jsonOf v

lemma returns_leaf {d : Definition ρ} (hd : d.Flattenable) (hk : d.kind.isDict = false) :
    d.Returns := by
  intro v declared ls hv hls
  rw [spread_leaf hk] at hls ⊢
  obtain rfl := hls.eq_nil
  obtain ⟨t, ht⟩ := storedType?_isSome hd.plain hk
  have hne := storedType?_ne_dict ht
  cases v with
  | none =>
    cases declared with
    | true => simp [ownLeaf, ht, Leaves.toJson, BagValue.null, hne, BagValue.plain, jsonOf]
    | false =>
      have hg := Leaves.gather_empty d
      simpa [ownLeaf, ht, Leaves.toJson, jsonOf] using hg
  | some w =>
    have hp := plain_storedJson (hv w rfl).conforms hd.plain hd.flat ht
    simp [ownLeaf, ht, Leaves.toJson, hne, hp, jsonOf]

lemma fieldsFrom_eq {cut : String → String × Option String} {parts : List (String × Leaves)}
    {ls : List (String × BagValue)} {gatherAt : String → Group → Json}
    {es : List (String × Value ρ)} (hc : Cuts cut parts) (hn : (Dict.keys parts).Nodup)
    (hp : ls.Perm (Leaves.join parts)) (h0 : ∀ key, gatherAt key {} = .null)
    (hs : Dict.Sorted es)
    (h : ∀ key ls', ls'.Perm (Leaves.partAt key parts).dotted →
      ((gatherAt key ⟨Leaves.isMark (Leaves.partAt key parts).own, ls'⟩).nonNull?).or
        ((Leaves.partAt key parts).own.bind fieldOf) = (es.lookup key).map Value.toJson) :
    fieldsFrom (placeLeaves cut ls) gatherAt = es.map fun e => (e.1, e.2.toJson) := by
  apply (sorted_fieldsFrom _ _).ext (hs.map fun _ v => v.toJson)
  intro key
  obtain ⟨ls', hls, hl⟩ := Leaves.lookup_fieldsFrom hc hn hp h0 key
  rw [hl, h key ls' hls]
  exact (Dict.lookup_map (fun _ v => v.toJson) es key).symm

lemma Returns.nonNull? {d : Definition ρ} (h : d.Returns) {v : Option (Value ρ)} {declared : Bool}
    {ls : List (String × BagValue)} (hv : ∀ w, v = some w → d.Faithful w)
    (hls : ls.Perm (spread d v declared).dotted) :
    ((d.gather ⟨Leaves.isMark (spread d v declared).own, ls⟩).nonNull?).or
      ((spread d v declared).own.bind fieldOf) = v.map Value.toJson := by
  have htidy : Leaves.Tidy ⟨(spread d v declared).own, ls⟩ := by
    intro w hw ht
    have hnil := spread_tidy d v declared w hw ht
    exact List.perm_nil.1 (hnil ▸ hls)
  rw [← nonNull?_jsonOf fun w hw => (hv w hw).expressible, ← h v declared ls hv hls]
  exact Leaves.nonNull?_toJson htidy

omit [Referent ρ] in
lemma entries_of_conforms {d : Definition ρ} (hd : d.kind.isDict = true) {v : Option (Value ρ)}
    (hv : ∀ w, v = some w → d.Conforms w) : ∃ entries, v = Option.map Value.dict entries := by
  cases v with
  | none => exact ⟨none, rfl⟩
  | some w =>
    cases hv w rfl with
    | @dict _ _ es => exact ⟨some es, rfl⟩
    | @composite _ _ es => exact ⟨some es, rfl⟩
    | _ => cases hd

omit [Referent ρ] in
lemma bind_dict? (entries : Option (List (String × Value ρ))) :
    (Option.map Value.dict entries).bind (·.dict?) = entries := by
  cases entries <;> rfl

omit [Referent ρ] in
lemma faithful_dict {t : Traits ρ} {value : Definition ρ} {v : Option (Value ρ)}
    (hv : ∀ w, v = some w → Faithful ⟨t, .dict value⟩ w) :
    ∃ entries, v = Option.map Value.dict entries ∧ Dict.Sorted (entries.getD []) ∧
      (∀ e ∈ entries.getD [], value.Faithful e.2) ∧
      (value.kind.isDict = true → ∀ e ∈ entries.getD [], '.' ∉ e.1.toList) := by
  obtain ⟨entries, rfl⟩ := entries_of_conforms rfl fun w hw => (hv w hw).conforms
  refine ⟨entries, rfl, ?_⟩
  cases entries with
  | none => exact ⟨.nil, by simp, by simp⟩
  | some es =>
    obtain ⟨hc, hx, hd⟩ := hv _ rfl
    cases hc with
    | dict hs hall =>
      refine ⟨hs, fun e he => ⟨hall e he, hx.child (Value.mem_children_dict he), ?_⟩, ?_⟩
      · exact hd.entry rfl he
      · exact fun hval => hd _ _ .whole value rfl hval

omit [Referent ρ] in
lemma faithful_composite {t : Traits ρ} {keys : List (String × Definition ρ)}
    {v : Option (Value ρ)} (hv : ∀ w, v = some w → Faithful ⟨t, .composite keys⟩ w) :
    ∃ entries, v = Option.map Value.dict entries ∧ Dict.Sorted (entries.getD []) ∧
      ∀ e ∈ entries.getD [], ∃ d, keys.lookup e.1 = some d ∧ d.Faithful e.2 := by
  obtain ⟨entries, rfl⟩ := entries_of_conforms rfl fun w hw => (hv w hw).conforms
  refine ⟨entries, rfl, ?_⟩
  cases entries with
  | none => exact ⟨.nil, by simp⟩
  | some es =>
    obtain ⟨hc, hx, hd⟩ := hv _ rfl
    cases hc with
    | composite hs hdecl hall =>
      refine ⟨hs, fun e he => ?_⟩
      obtain ⟨d, hl⟩ := Option.isSome_iff_exists.1 (hdecl e he)
      exact ⟨d, hl, hall e he d hl, hx.child (Value.mem_children_dict he), hd.entry hl he⟩

lemma spread_dict (t : Traits ρ) (value : Definition ρ)
    (entries : Option (List (String × Value ρ))) (declared : Bool) :
    spread ⟨t, .dict value⟩ (entries.map .dict) declared =
      ⟨ownMark entries, Leaves.join (dictParts value (entries.getD []))⟩ := by
  rw [spread, bind_dict?]
  rfl

lemma spread_composite (t : Traits ρ) (keys : List (String × Definition ρ))
    (entries : Option (List (String × Value ρ))) (declared : Bool) :
    spread ⟨t, .composite keys⟩ (entries.map .dict) declared =
      ⟨ownMark entries, Leaves.join (keyParts keys (entries.getD []))⟩ := by
  rw [spread, bind_dict?, spreadKeys_eq]
  rfl

lemma nodup_dictParts (value : Definition ρ) {es : List (String × Value ρ)} (hs : Dict.Sorted es) :
    (Dict.keys (dictParts value es)).Nodup := by
  rw [dictParts, Dict.keys_map fun _ v => spread value (some v) false]
  exact hs.nodup

lemma nodup_keyParts {keys : List (String × Definition ρ)} (hs : Dict.Sorted keys)
    (es : List (String × Value ρ)) : (Dict.keys (keyParts keys es)).Nodup := by
  rw [keyParts, Dict.keys_map fun k d => spread d (es.lookup k) true]
  exact hs.nodup

lemma partAt_dictParts (value : Definition ρ) (es : List (String × Value ρ)) (key : String) :
    Leaves.partAt key (dictParts value es) =
      ((es.lookup key).map fun v => spread value (some v) false).getD {} := by
  rw [Leaves.partAt, dictParts, Dict.lookup_map fun _ v => spread value (some v) false]

lemma partAt_keyParts (keys : List (String × Definition ρ)) (es : List (String × Value ρ))
    (key : String) : Leaves.partAt key (keyParts keys es) =
      ((keys.lookup key).map fun d => spread d (es.lookup key) true).getD {} := by
  rw [Leaves.partAt, keyParts, Dict.lookup_map fun k d => spread d (es.lookup k) true]

lemma returns_dict {t : Traits ρ} {value : Definition ρ} (hvalue : value.Returns) :
    Returns ⟨t, .dict value⟩ := by
  intro v declared ls hv hls
  obtain ⟨entries, rfl, hs, hall, hdot⟩ := faithful_dict hv
  rw [spread_dict] at hls ⊢
  rw [Leaves.toJson_mark isMark_of_ownMark, ← close_ownMark, gather, gatherKind]
  congr 1
  -- From here on an unset dict and an empty one have the same entries: none.
  generalize entries.getD [] = es at hs hall hdot hls ⊢
  refine fieldsFrom_eq (cuts_dictParts hdot) (nodup_dictParts value hs) hls
    (fun _ => Leaves.gather_empty value) hs fun key ls' hls' => ?_
  rw [partAt_dictParts] at hls' ⊢
  cases hl : es.lookup key with
  | none =>
    rw [hl] at hls'
    obtain rfl := List.perm_nil.1 hls'
    have hg := Leaves.gather_empty value
    simp [Leaves.isMark, hg, Json.nonNull?, Json.isNull]
  | some w =>
    rw [hl] at hls'
    have hw := hall _ (Dict.mem_of_lookup hl)
    exact hvalue.nonNull? (by rintro _ ⟨⟩; exact hw) hls'

lemma returns_composite {t : Traits ρ} {keys : List (String × Definition ρ)}
    (hs : Dict.Sorted keys) (hu : Unambiguous (Dict.keys keys))
    (hkeys : ∀ e ∈ keys, e.2.Returns) : Returns ⟨t, .composite keys⟩ := by
  intro v declared ls hv hls
  obtain ⟨entries, rfl, hes, hall⟩ := faithful_composite hv
  rw [spread_composite] at hls ⊢
  rw [Leaves.toJson_mark isMark_of_ownMark, ← close_ownMark, gather, gatherKind]
  congr 1
  generalize entries.getD [] = es at hes hall hls ⊢
  refine fieldsFrom_eq (cuts_keyParts hu es) (nodup_keyParts hs es) hls (gatherKey_empty keys) hes
    fun key ls' hls' => ?_
  rw [partAt_keyParts] at hls' ⊢
  cases hl : keys.lookup key with
  | none =>
    rw [hl] at hls'
    obtain rfl := List.perm_nil.1 hls'
    have hnone : es.lookup key = none := by
      cases he : es.lookup key with
      | none => rfl
      | some w =>
        obtain ⟨d, hd, _⟩ := hall _ (Dict.mem_of_lookup he)
        exact nomatch hl.symm.trans hd
    have hg := gatherKey_empty keys key
    simp [Leaves.isMark, hg, Json.nonNull?, Json.isNull, hnone]
  | some d =>
    rw [hl] at hls'
    rw [gatherKey_lookup hl]
    refine (hkeys _ (Dict.mem_of_lookup hl)).nonNull? (fun w hw => ?_) hls'
    obtain ⟨d', hd', hf⟩ := hall _ (Dict.mem_of_lookup hw)
    obtain rfl : d = d' := Option.some.inj (hl.symm.trans hd')
    exact hf

theorem returns (d : Definition ρ) (hr : d.Regular) (hd : d.Flattenable) : d.Returns := by
  induction d using Definition.induction with
  | h d ih =>
    obtain ⟨t, kind⟩ := d
    cases kind with
    | dict value =>
      have hm : value ∈ (mk t (.dict value)).parts := List.mem_singleton_self _
      exact returns_dict (ih value hm (hr.part hm) (hd.part hm))
    | composite keys =>
      apply returns_composite (hr.built.sorted keys rfl) (hd.unambiguous _ .self keys rfl)
      intro e he
      have hm : e.2 ∈ (mk t (.composite keys)).parts := List.mem_map_of_mem he
      exact ih e.2 hm (hr.part hm) (hd.part hm)
    | _ => exact returns_leaf hd rfl

end

end Definition

end TypedArtifacts
