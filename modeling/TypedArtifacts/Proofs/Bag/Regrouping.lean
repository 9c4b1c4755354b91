import TypedArtifacts.Proofs.Artifact.RoundTrip
import TypedArtifacts.Proofs.Bag.Attribution

namespace TypedArtifacts

open TypedArtifacts.Group

namespace Json

def at? : List String → Json → Option Json
  | [], j => some j
  | key :: path, .obj fields => (fields.lookup key).bind (at? path)
  | _ :: _, _ => none

def nest : List String → Json → Json
  | [], j => j
  | key :: path, j => .obj [(key, nest path j)]

structure Shows (j : Json) (x : List String × BagValue) : Prop where
  value : ∀ u, fieldOf x.2 = some u → j.at? x.1 = some u
  mark : x.2.type = .dict → ∃ fields, j.at? x.1 = some (.obj fields)

lemma nonNull?_nest {u : Json} (path : List String) (h : u.nonNull? = some u) :
    (nest path u).nonNull? = some (nest path u) := by
  cases path with
  | nil => exact h
  | cons key path => rfl

lemma nonNull?_of_at? {j u : Json} {key : String} {path : List String}
    (h : j.at? (key :: path) = some u) : j.nonNull? = some j := by
  cases j with
  | obj fields => rfl
  | _ => cases h

end Json

namespace Definition

variable {ρ : Type}

def gatherAt (d : Definition ρ) : String → Group → Json :=
  match d.kind with
  | .dict value => fun _ g => value.gather g
  | .composite keys => gatherKey keys
  | _ => fun _ _ => .null

lemma gather_eq (d : Definition ρ) (g : Group) :
    d.gather g = close g.marked (fieldsFrom (placeLeaves d.cut g.leaves) d.gatherAt) := by
  obtain ⟨t, kind⟩ := d
  have hnull : ∀ groups : List (String × Group),
      (groups.flatMap fun e => present e.1 Json.null) = [] := by
    intro groups
    exact List.flatMap_eq_nil_iff.2 fun _ _ => rfl
  cases kind with
  | dict value => rfl
  | composite keys => rfl
  | _ =>
    rw [gather, gatherKind]
    · simp only [fieldsFrom, gatherAt, hnull, cut]
      rfl
    all_goals simp

lemma gatherAt_of_valueAt? {d p : Definition ρ} {key : String} (h : d.valueAt? key = some p)
    (g : Group) : d.gatherAt key g = p.gather g := by
  obtain ⟨t, kind⟩ := d
  cases kind with
  | dict value =>
    obtain rfl := Option.some.inj h
    rfl
  | composite keys => exact gatherKey_lookup h g
  | _ => cases h

lemma gatherAt_empty (d : Definition ρ) (key : String) : d.gatherAt key {} = .null := by
  obtain ⟨t, kind⟩ := d
  cases kind with
  | dict value => exact Leaves.gather_empty value
  | composite keys => exact gatherKey_empty keys key
  | _ => rfl

lemma valueAt?_of_cut {d : Definition ρ} {text key rest : String}
    (h : d.cut text = (key, some rest)) : ∃ p, d.valueAt? key = some p := by
  obtain ⟨t, kind⟩ := d
  cases kind with
  | dict value => exact ⟨value, rfl⟩
  | composite keys =>
    rcases declaredCut_cases keys text with ⟨_, hc⟩ | ⟨l, e, r, _, rfl, _, _, hc⟩
    · cases (Prod.mk.inj (hc.symm.trans h)).2
    · obtain ⟨rfl, _⟩ := Prod.mk.inj (hc.symm.trans h)
      have hm : e.1 ∈ Dict.keys (l ++ e :: r) := Dict.mem_keys_of_mem (by simp)
      rw [← not_not (a := e.1 ∈ _), ← Dict.lookup_eq_none] at hm
      exact Option.ne_none_iff_exists'.1 hm
  | _ => cases (Prod.mk.inj h).2

lemma fieldOf_eq_some {w : BagValue} {u : Json} (h : fieldOf w = some u) :
    w.type ≠ .dict ∧ w.value.isNull = false ∧ u = BagValue.plain (some w.type) w.value ∧
      u.nonNull? = some u := by
  unfold fieldOf at h
  split at h
  · cases h
  · rename_i ht
    have hn : w.value.isNull = false := by
      cases hn : w.value.isNull with
      | false => rfl
      | true => simp [Json.nonNull?, hn] at h
    have hu : BagValue.plain (some w.type) w.value = u := by
      simpa [Json.nonNull?, hn] using h
    refine ⟨ht, hn, hu.symm, ?_⟩
    rw [← hu, Leaves.nonNull?_plain]
    simp [Json.nonNull?, hn]

theorem gather_single (d : Definition ρ) (text : String) {w : BagValue} {u : Json}
    (hu : fieldOf w = some u) : d.gather ⟨false, [(text, w)]⟩ = Json.nest (d.route text) u := by
  obtain ⟨ht, hn, hplain, hset⟩ := fieldOf_eq_some hu
  induction d using Definition.induction generalizing text with
  | h d ih =>
    rw [gather_eq]
    rcases cut_cases d text with hc | ⟨key, rest, _, hc⟩
    · rw [route_whole hc]
      simp [placeLeaves, hc, fieldsFrom, direct, nested, ht, hn, close, Json.nest, hplain,
        Dict.ofList, Dict.update, Dict.insert]
    · obtain ⟨p, hp⟩ := valueAt?_of_cut hc
      have hdeeper := ih p (mem_parts_of_valueAt? hp) rest
      have hset' : (p.gather ⟨false, [(rest, w)]⟩).nonNull? = some (p.gather ⟨false, [(rest, w)]⟩) := by
        rw [hdeeper]
        exact Json.nonNull?_nest (p.route rest) hset
      have hplaced : placeLeaves d.cut [(text, w)] = [⟨key, some rest, w⟩] := by
        simp [placeLeaves, hc]
      have hnested : nested [⟨key, some rest, w⟩] [] = [(key, ⟨false, [(rest, w)]⟩)] := by
        simp [nested, addLeaf, Dict.insert]
      rw [route_apart hc hp, Json.nest, ← hdeeper, hplaced, fieldsFrom, hnested,
        List.flatMap_singleton, gatherAt_of_valueAt? hp, present_eq, hset']
      rfl

def readBack (d : Definition ρ) (name : String) (properties : List (String × BagValue)) : Json :=
  (((Leaves.ofProperties properties).lookup name).getD {}).toJson d

lemma readBack_single (d : Definition ρ) {key : String} {w : BagValue} {u : Json}
    (hu : fieldOf w = some u) :
    d.readBack (cutAtDot key).1 [(key, w)] = Json.nest (d.attribution key).2 u := by
  obtain ⟨ht, _, hplain, _⟩ := fieldOf_eq_some hu
  rw [readBack, attribution]
  rcases hc : cutAtDot key with ⟨name, _ | rest⟩
  · simp [Leaves.ofProperties, Leaves.add, hc, Dict.insert, Leaves.toJson, ht, Json.nest, hplain]
  · have hsingle := gather_single d rest hu
    simpa [Leaves.ofProperties, Leaves.add, hc, Dict.insert, Leaves.toJson] using hsingle

section

variable [Referent ρ]

lemma dotted_eq_pathLeaves (d : Definition ρ) (v : Option (Value ρ)) (declared : Bool) :
    (d.spread v declared).dotted = (d.branches v).flatMap fun e =>
      e.2.pathLeaves.map fun x => (keyAt e.1 x.1, x.2) := by
  rw [dotted_spread, Leaves.join, List.flatMap_map]
  apply List.flatMap_congr
  intro e _
  exact under_spread _ _ _ _

lemma mem_dotted {d : Definition ρ} {v : Option (Value ρ)} {declared : Bool} {key : String}
    {path : List String} {w : BagValue} (h : (key :: path, w) ∈ pathLeaves d v declared) :
    (keyAt key path, w) ∈ (d.spread v declared).dotted := by
  obtain ⟨b, hb, hx⟩ := mem_pathLeaves_cons h
  rw [dotted_eq_pathLeaves]
  exact List.mem_flatMap.2 ⟨_, hb, List.mem_map.2 ⟨_, hx, rfl⟩⟩

lemma mem_pathLeaves_of_branch {d : Definition ρ} {v : Option (Value ρ)} (declared : Bool)
    {e : String × Branch ρ} (he : e ∈ d.branches v) {x : List String × BagValue}
    (hx : x ∈ e.2.pathLeaves) : (e.1 :: x.1, x.2) ∈ pathLeaves d v declared := by
  rw [pathLeaves_eq]
  exact List.mem_append_right _ (List.mem_flatMap.2 ⟨e, he, List.mem_map.2 ⟨x, hx, rfl⟩⟩)

lemma nil_mem_pathLeaves_iff {d : Definition ρ} {v : Option (Value ρ)} {declared : Bool}
    {w : BagValue} : ([], w) ∈ pathLeaves d v declared ↔ (d.spread v declared).own = some w := by
  rw [pathLeaves_eq]
  simp

def AllClean (d : Definition ρ) (v : Option (Value ρ)) (declared : Bool) : Prop :=
  ∀ x ∈ pathLeaves d v declared, d.Clean x.1

lemma AllClean.branch {d : Definition ρ} (hd : d.Built) {v : Option (Value ρ)} {declared : Bool}
    (h : d.AllClean v declared) {e : String × Branch ρ} (he : e ∈ d.branches v) :
    e.2.definition.AllClean e.2.value e.2.declared := by
  intro x hx
  exact (h _ (mem_pathLeaves_of_branch declared he hx)).2 _ (valueAt?_branch hd he)

lemma cuts_branches {d : Definition ρ} (hd : d.Built) {v : Option (Value ρ)} {declared : Bool}
    (h : d.AllClean v declared) : Cuts d.cut ((d.branches v).map fun e => (e.1, e.2.spread)) := by
  refine ⟨fun part hpart hown => ?_, fun part hpart f hf => ?_⟩
  · obtain ⟨e, he, rfl⟩ := List.mem_map.1 hpart
    obtain ⟨w, hw⟩ := Option.isSome_iff_exists.1 hown
    have hx : ([], w) ∈ e.2.pathLeaves := nil_mem_pathLeaves_iff.2 hw
    have hclean := h _ (mem_pathLeaves_of_branch declared he hx)
    exact (cut_self_iff d e.1).2 hclean.1
  · obtain ⟨e, he, rfl⟩ := List.mem_map.1 hpart
    change f ∈ (e.2.definition.spread e.2.value e.2.declared).dotted at hf
    rw [dotted_eq_pathLeaves] at hf
    obtain ⟨g, hg, hf⟩ := List.mem_flatMap.1 hf
    obtain ⟨x, hx, rfl⟩ := List.mem_map.1 hf
    have hdeeper : (g.1 :: x.1, x.2) ∈ e.2.pathLeaves := mem_pathLeaves_of_branch _ hg hx
    have hclean := h _ (mem_pathLeaves_of_branch declared he hdeeper)
    exact (cut_keyUnder_iff hd.sorted (valueAt?_branch hd he) (isDict_of_mem_branches hg) _).2
      hclean.1

lemma lookup_branch {d : Definition ρ} (hd : d.Built) {v : Option (Value ρ)} {declared : Bool}
    (hv : ∀ w, v = some w → w.Ordered) (h : d.AllClean v declared) {ls : List (String × BagValue)}
    (hls : ls.Perm (d.spread v declared).dotted) {key : String} {b : Branch ρ}
    (hb : (key, b) ∈ d.branches v) :
    ∃ ls', ls'.Perm b.spread.dotted ∧ (fieldsFrom (placeLeaves d.cut ls) d.gatherAt).lookup key =
      (Leaves.toJson b.definition ⟨b.spread.own, ls'⟩).nonNull? := by
  rw [dotted_spread] at hls
  have hkeys : Dict.keys ((d.branches v).map fun e => (e.1, e.2.spread)) =
      Dict.keys (d.branches v) := Dict.keys_map (fun _ (b : Branch ρ) => b.spread) _
  have hn : (Dict.keys ((d.branches v).map fun e => (e.1, e.2.spread))).Nodup := by
    rw [hkeys]
    exact nodup_branches hd hv
  have hpart : Leaves.partAt key ((d.branches v).map fun e => (e.1, e.2.spread)) = b.spread := by
    rw [Leaves.partAt, Dict.lookup_of_mem hn (List.mem_map.2 ⟨_, hb, rfl⟩)]
    rfl
  obtain ⟨ls', hls', hl⟩ :=
    Leaves.lookup_fieldsFrom (cuts_branches hd h) hn hls d.gatherAt_empty key
  rw [hpart] at hls' hl
  refine ⟨ls', hls', ?_⟩
  have htidy : Leaves.Tidy ⟨b.spread.own, ls'⟩ := by
    intro w hw ht
    have hnil := spread_tidy b.definition b.value b.declared w hw ht
    exact List.perm_nil.1 (hnil ▸ hls')
  rw [hl, gatherAt_of_valueAt? (valueAt?_branch hd hb)]
  exact Leaves.nonNull?_toJson htidy

end

end Definition

namespace Json

lemma Shows.nonNull? {j : Json} {x : List String × BagValue} (h : j.Shows x)
    (hx : x.2.type = .dict ∨ (fieldOf x.2).isSome) : j.nonNull? = some j := by
  have hsome : ∃ u, j.at? x.1 = some u ∧ u.nonNull? = some u := by
    rcases hx with ht | hf
    · obtain ⟨fields, hat⟩ := h.mark ht
      exact ⟨_, hat, rfl⟩
    · obtain ⟨u, hu⟩ := Option.isSome_iff_exists.1 hf
      exact ⟨u, h.value u hu, (Definition.fieldOf_eq_some hu).2.2.2⟩
  obtain ⟨u, hat, hu⟩ := hsome
  obtain ⟨_ | ⟨key, path⟩, w⟩ := x
  · obtain rfl : j = u := Option.some.inj hat
    exact hu
  · exact nonNull?_of_at? hat

lemma Shows.under {j : Json} {path : List String} {w : BagValue} (h : j.Shows (path, w))
    {key : String} {fields : List (String × Json)} (hl : fields.lookup key = j.nonNull?)
    (marked : Bool) : (close marked fields).Shows (key :: path, w) := by
  have hat : (w.type = .dict ∨ (fieldOf w).isSome) →
      (close marked fields).at? (key :: path) = j.at? path := by
    intro hw
    rw [h.nonNull? hw] at hl
    have hne : fields.isEmpty = false := by
      cases fields with
      | nil => cases hl
      | cons e es => rfl
    simp [close, hne, at?, hl]
  refine ⟨fun u hu => ?_, fun ht => ?_⟩
  · rw [hat (Or.inr (by rw [hu]; rfl))]
    exact h.value u hu
  · rw [hat (Or.inl ht)]
    exact h.mark ht

end Json

namespace Definition

section

variable [Referent ρ]

lemma shows_own {d : Definition ρ} {v : Option (Value ρ)} {declared : Bool} {w : BagValue}
    {ls : List (String × BagValue)} (hls : ls.Perm (d.spread v declared).dotted)
    (hw : (d.spread v declared).own = some w) :
    (Leaves.toJson d ⟨(d.spread v declared).own, ls⟩).Shows ([], w) := by
  rw [hw]
  refine ⟨fun u hu => ?_, fun ht => ?_⟩
  · obtain ⟨ht, _, rfl, _⟩ := fieldOf_eq_some hu
    have hnil := spread_tidy d v declared w hw ht
    obtain rfl : ls = [] := List.perm_nil.1 (hnil ▸ hls)
    simp [Leaves.toJson, ht, Json.at?]
  · have hmark : Leaves.isMark (some w) = true := by simp [Leaves.isMark, show w.type = .dict from ht]
    have hclose : ∀ fields, close true fields = .obj fields := by simp [close]
    refine ⟨fieldsFrom (placeLeaves d.cut ls) d.gatherAt, ?_⟩
    rw [Leaves.toJson_mark (by rintro _ ⟨⟩; exact ht), gather_eq, hmark, hclose]
    rfl

theorem shows_toJson {d : Definition ρ} (hd : d.Built) {v : Option (Value ρ)} {declared : Bool}
    (hv : ∀ w, v = some w → w.Ordered) (h : d.AllClean v declared) {ls : List (String × BagValue)}
    (hls : ls.Perm (d.spread v declared).dotted) {path : List String} {w : BagValue}
    (hx : (path, w) ∈ pathLeaves d v declared) :
    (Leaves.toJson d ⟨(d.spread v declared).own, ls⟩).Shows (path, w) := by
  induction path generalizing d v declared ls with
  | nil => exact shows_own hls (nil_mem_pathLeaves_iff.1 hx)
  | cons key path ih =>
    obtain ⟨b, hb, hbx⟩ := mem_pathLeaves_cons hx
    obtain ⟨ls', hls', hl⟩ := lookup_branch hd hv h hls hb
    have hmark : ∀ u, (d.spread v declared).own = some u → u.type = .dict := by
      intro u hu
      by_contra ht
      have hnil := spread_tidy d v declared u hu ht
      exact List.not_mem_nil (hnil ▸ mem_dotted hx)
    have hdeeper := ih (hd.parts _ (definition_mem_parts hb)) (ordered_branch hv hb)
      (h.branch hd hb) hls' hbx
    rw [Leaves.toJson_mark (l := ⟨(d.spread v declared).own, ls⟩) hmark, gather_eq]
    exact hdeeper.under hl _

lemma getD_ofProperties_attribute {name : String} (hname : '.' ∉ name.toList)
    {l : Leaves} {others properties : List (String × BagValue)}
    (ho : ∀ e ∈ others, (cutAtDot e.1).1 ≠ name) (hp : properties.Perm (l.under name ++ others)) :
    (((Leaves.ofProperties properties).lookup name).getD {}).own = l.own ∧
      (((Leaves.ofProperties properties).lookup name).getD {}).dotted.Perm l.dotted := by
  have hc : Cuts cutAtDot [(name, l)] := by
    constructor
    · simp [cutAtDot_dotless hname]
    · simp [cutAtDot_keyUnder hname]
  have hn : (Dict.keys [(name, l)]).Nodup := List.nodup_singleton _
  have hpart : Leaves.partAt name [(name, l)] = l := by simp [Leaves.partAt]
  have hjoin : Leaves.join [(name, l)] = l.under name := List.flatMap_singleton _ _
  have hown := Leaves.ownAt_perm hc hn (.refl _) name
  have hdeeper := Leaves.deeperAt_perm hc hn (.refl _) name
  rw [hpart, hjoin] at hown hdeeper
  have hownOthers : ownAt name (placeLeaves cutAtDot others) = [] := by
    refine List.filterMap_eq_nil_iff.2 fun p hp => ?_
    obtain ⟨e, he, rfl⟩ := List.mem_map.1 hp
    simp [ho e he]
  have hdeeperOthers : deeperAt name (placeLeaves cutAtDot others) = [] := by
    refine List.filterMap_eq_nil_iff.2 fun p hp => ?_
    obtain ⟨e, he, rfl⟩ := List.mem_map.1 hp
    simp [ho e he]
  have hplaced : (placeLeaves cutAtDot properties).Perm
      (placeLeaves cutAtDot (l.under name) ++ placeLeaves cutAtDot others) := by
    rw [placeLeaves, placeLeaves, placeLeaves, ← List.map_append]
    exact hp.map _
  have howns : ownAt name (placeLeaves cutAtDot properties) = l.own.toList := by
    have hf : (ownAt name (placeLeaves cutAtDot properties)).Perm _ := hplaced.filterMap _
    rw [List.filterMap_append, ← ownAt, ← ownAt, hown, hownOthers, List.append_nil] at hf
    cases ho : l.own with
    | none => simpa [ho] using hf
    | some w => simpa [ho] using hf
  have hdeepers : (deeperAt name (placeLeaves cutAtDot properties)).Perm l.dotted := by
    have hf : (deeperAt name (placeLeaves cutAtDot properties)).Perm _ := hplaced.filterMap _
    rw [List.filterMap_append, ← deeperAt, ← deeperAt, hdeeperOthers, List.append_nil] at hf
    exact hf.trans hdeeper
  have hg : ((Leaves.ofProperties properties).lookup name).getD {} = _ :=
    Leaves.getD_foldl_add properties [] name
  rw [hg, howns]
  refine ⟨?_, hdeepers⟩
  cases l.own <;> rfl

/-- The keys of leaves tell them apart, and where they are read, exactly if no key on the way to one
can be taken for a shorter one with something below it. -/
theorem leaves_told_apart {d : Definition ρ} (hd : d.Built) {name : String}
    (hname : '.' ∉ name.toList) {v : Value ρ} (hv : v.Ordered) :
    leaves d name (some v) false =
        (pathLeaves d (some v) false).map (fun x => (keyAt name x.1, x.2)) ∧
      ((Dict.keys (leaves d name (some v) false)).Nodup ∧
          (∀ x ∈ pathLeaves d (some v) false, d.attribution (keyAt name x.1) = (name, x.1)) ↔
        d.AllClean (some v) false) ∧
      (∀ key w u, (cutAtDot key).1 = name → fieldOf w = some u →
        d.readBack name [(key, w)] = Json.nest (d.attribution key).2 u) ∧
      (d.AllClean (some v) false → ∀ others properties, (∀ e ∈ others, (cutAtDot e.1).1 ≠ name) →
        properties.Perm (leaves d name (some v) false ++ others) →
        ∀ x ∈ pathLeaves d (some v) false, (d.readBack name properties).Shows x) := by
  have hv' : ∀ w, some v = some w → w.Ordered := by
    rintro _ ⟨⟩
    exact hv
  refine ⟨leaves_eq_pathLeaves _ _ _ _, ⟨fun h x hx => ?_, fun h => ?_⟩, ?_, ?_⟩
  · exact (attribution_keyAt_iff hd hname hx).1 (h.2 x hx)
  · have hread := fun x hx => (attribution_keyAt_iff hd hname hx).2 (h x hx)
    refine ⟨?_, hread⟩
    rw [leaves_eq_pathLeaves, Dict.keys, List.map_map]
    exact nodup_keys_of_attributed hd hv' hread
  · rintro key w u rfl hu
    exact readBack_single d hu
  · intro h others properties ho hp x hx
    rw [leaves_eq] at hp
    obtain ⟨hown, hdotted⟩ := getD_ofProperties_attribute hname ho hp
    have hshows := shows_toJson hd hv' h hdotted hx
    rw [← hown] at hshows
    exact hshows

end

namespace Sample

open Artifact.Sample

attribute [local instance] Predicates.parityAndSize ArtifactPredicates.owned

lemma built_counts : counts.Built := by
  have hd := (registered.declared shelfType (by simp [catalog])).attributes.2
  exact (hd ("counts", counts) (Dict.mem_of_lookup rfl)).built

lemma allClean_rooms : counts.AllClean (some rooms) false := by
  have hp : pathLeaves counts (some rooms) false =
      [(["hall", "by.door"], ⟨.int, .int 3⟩), (["study"], .emptyDict)] := rfl
  rw [AllClean, hp, List.forall_mem_cons, List.forall_mem_singleton]
  refine ⟨⟨fun _ => by decide, ?_⟩, fun _ => by decide, fun _ _ => trivial⟩
  rintro p ⟨⟩
  exact ⟨nofun, fun _ _ => trivial⟩

theorem nodup_keys_rooms : (Dict.keys (leaves counts "counts" (some rooms) false)).Nodup ∧
    ∀ properties, properties.Perm (leaves counts "counts" (some rooms) false) →
      (counts.readBack "counts" properties).at? ["hall", "by.door"] = some (.int 3) := by
  obtain ⟨_, hiff, _, hshows⟩ := leaves_told_apart built_counts
    (show '.' ∉ "counts".toList by decide) ordered_rooms
  refine ⟨(hiff.2 allClean_rooms).1, fun properties hp => ?_⟩
  rw [← List.append_nil (leaves ..)] at hp
  exact (hshows allClean_rooms [] properties nofun hp (["hall", "by.door"], ⟨.int, .int 3⟩)
    (List.mem_cons_self)).value _ rfl

def clash : Value Artifact :=
  .dict [("a", .dict [("b.c", .integer 1)]), ("a.b", .dict [("c", .integer 2)])]

theorem keys_clash : ∃ a, bare.set "counts" (some clash) = .ok a ∧
    leaves counts "counts" (some clash) false =
      [("counts.a.b.c", ⟨.int, .int 1⟩), ("counts.a.b.c", ⟨.int, .int 2⟩)] ∧
    (Bag.ofArtifact a).properties = [("counts.a.b.c", ⟨.int, .int 2⟩)] :=
  ⟨_, rfl, rfl, rfl⟩

end Sample

end Definition

end TypedArtifacts
