import TypedArtifacts.Proofs.Store

namespace TypedArtifacts

namespace Bag

variable {bags fresh : List (String × Bag)} {b t x y : Bag} {id last : String}

def entries (b : Bag) : List (DependencyEntry Bag) :=
  b.dependencies.flatMap (·.2)

lemma mem_entries {e : DependencyEntry Bag} :
    e ∈ b.entries ↔ ∃ name es, (name, es) ∈ b.dependencies ∧ e ∈ es := by
  simp [entries]

lemma mem_dependencyIds : id ∈ b.dependencyIds ↔ ∃ e ∈ b.entries, targetId e = id := by
  have h : b.dependencyIds = b.entries.map targetId := by
    simp [dependencyIds, entries, List.map_flatMap]
  rw [h, List.mem_map]

def expandEntry (bags fresh : List (String × Bag)) (owner : String) (e : DependencyEntry Bag) :
    Except StoreError (DependencyEntry Bag) :=
  match bags.lookup (targetId e) with
  | none => .error (.corrupt owner (.missing (targetId e)))
  | some target =>
    if Dict.contains (targetId e) fresh then
      (expandAmong bags (Dict.erase (targetId e) fresh) target).map .expanded
    else .ok (.expanded target.withoutDependencies)

lemma expandAmong_eq (b : Bag) : b.expandAmong bags fresh = do
    let dependencies ← b.dependencies.mapM fun (name, entries) => do
      let entries ← entries.mapM (expandEntry bags fresh b.id)
      return (name, entries)
    return { b with dependencies := dependencies } := by
  rw [expandAmong]
  rfl

def Expands (bags fresh : List (String × Bag)) (e e' : DependencyEntry Bag) : Prop :=
  ∃ t, bags.lookup (targetId e) = some t ∧
    ((Dict.contains (targetId e) fresh = true ∧
        ∃ x, t.expandAmong bags (Dict.erase (targetId e) fresh) = .ok x ∧ e' = .expanded x) ∨
      Dict.contains (targetId e) fresh = false ∧ e' = .expanded t.withoutDependencies)

lemma expandEntry_ok {owner : String} {e e' : DependencyEntry Bag}
    (h : expandEntry bags fresh owner e = .ok e') : Expands bags fresh e e' := by
  rw [expandEntry] at h
  cases ht : bags.lookup (targetId e) with
  | none =>
    rw [ht] at h
    cases h
  | some t =>
    rw [ht] at h
    refine ⟨t, ht, ?_⟩
    cases hc : Dict.contains (targetId e) fresh with
    | false =>
      rw [hc] at h
      exact Or.inr ⟨rfl, (Except.ok.inj h).symm⟩
    | true =>
      simp only [hc, if_true] at h
      cases hx : t.expandAmong bags (Dict.erase (targetId e) fresh) with
      | error f =>
        rw [hx] at h
        cases h
      | ok x =>
        rw [hx] at h
        exact Or.inl ⟨rfl, x, rfl, (Except.ok.inj h).symm⟩

lemma expandEntry_error {owner : String} {e : DependencyEntry Bag} {f : StoreError}
    (h : expandEntry bags fresh owner e = .error f) :
    (bags.lookup (targetId e) = none ∧ f = .corrupt owner (.missing (targetId e))) ∨
      ∃ t, bags.lookup (targetId e) = some t ∧ Dict.contains (targetId e) fresh = true ∧
        t.expandAmong bags (Dict.erase (targetId e) fresh) = .error f := by
  rw [expandEntry] at h
  cases ht : bags.lookup (targetId e) with
  | none =>
    rw [ht] at h
    exact Or.inl ⟨rfl, (Except.error.inj h).symm⟩
  | some t =>
    rw [ht] at h
    cases hc : Dict.contains (targetId e) fresh with
    | false =>
      rw [hc] at h
      cases h
    | true =>
      simp only [hc, if_true] at h
      cases hx : t.expandAmong bags (Dict.erase (targetId e) fresh) with
      | ok x =>
        rw [hx] at h
        cases h
      | error g =>
        rw [hx] at h
        obtain rfl := Except.error.inj h
        exact Or.inr ⟨t, rfl, rfl, hx⟩

lemma expandAmong_ok (h : b.expandAmong bags fresh = .ok x) :
    ∃ dependencies, x = { b with dependencies := dependencies } ∧
      List.Forall₂ (fun p q => q.1 = p.1 ∧ List.Forall₂ (Expands bags fresh) p.2 q.2)
        b.dependencies dependencies := by
  rw [expandAmong_eq] at h
  obtain ⟨dependencies, hd, h⟩ := Outcome.bind_eq_ok.1 h
  refine ⟨dependencies, (Except.ok.inj h).symm, (Outcome.mapM_eq_ok.1 hd).imp ?_⟩
  rintro ⟨name, es⟩ q hq
  obtain ⟨es', hes, hq⟩ := Outcome.bind_eq_ok.1 hq
  obtain rfl := Except.ok.inj hq
  exact ⟨rfl, (Outcome.mapM_eq_ok.1 hes).imp fun _ _ => expandEntry_ok⟩

lemma expandAmong_error {f : StoreError} (h : b.expandAmong bags fresh = .error f) :
    ∃ e ∈ b.entries, expandEntry bags fresh b.id e = .error f := by
  rw [expandAmong_eq] at h
  cases hd : b.dependencies.mapM fun (name, entries) => do
      let entries ← entries.mapM (expandEntry bags fresh b.id)
      return (name, entries) with
  | ok dependencies =>
    rw [hd] at h
    cases h
  | error g =>
    rw [hd] at h
    obtain rfl := Except.error.inj h
    obtain ⟨⟨name, es⟩, hm, he⟩ := Outcome.mapM_error hd
    cases hes : es.mapM (expandEntry bags fresh b.id) with
    | ok es' =>
      simp only [hes] at he
      cases he
    | error g' =>
      simp only [hes] at he
      obtain rfl := Except.error.inj he
      obtain ⟨e, hem, hee⟩ := Outcome.mapM_error hes
      exact ⟨e, mem_entries.2 ⟨name, es, hm, hem⟩, hee⟩

lemma entries_expandAmong (h : b.expandAmong bags fresh = .ok x) :
    List.Forall₂ (Expands bags fresh) b.entries x.entries := by
  obtain ⟨dependencies, rfl, hd⟩ := expandAmong_ok h
  exact List.rel_flatMap hd fun _ _ hp => hp.2

lemma expands_of_mem {e : DependencyEntry Bag} (h : b.expandAmong bags fresh = .ok x)
    (he : e ∈ b.entries) : ∃ e' ∈ x.entries, Expands bags fresh e e' :=
  Outcome.exists_right (entries_expandAmong h) he

lemma expands_to_mem {e' : DependencyEntry Bag} (h : b.expandAmong bags fresh = .ok x)
    (he : e' ∈ x.entries) : ∃ e ∈ b.entries, Expands bags fresh e e' :=
  Outcome.exists_left (entries_expandAmong h) he

inductive Reaches (bags : List (String × Bag)) : Bag → String → Prop
  | edge {b : Bag} {id : String} (h : id ∈ b.dependencyIds) : Reaches bags b id
  | step {b t : Bag} {id last : String} (h : id ∈ b.dependencyIds) (ht : bags.lookup id = some t)
      (hl : Reaches bags t last) : Reaches bags b last

lemma Reaches.mono (hsub : ∀ id t, fresh.lookup id = some t → bags.lookup id = some t)
    (h : Reaches fresh b last) : Reaches bags b last := by
  induction h with
  | edge h => exact .edge h
  | step h ht _ ih => exact .step h (hsub _ _ ht) ih

lemma Reaches.trans {key : String} (h : Reaches bags b key) (ht : bags.lookup key = some t)
    (hid : id ∈ t.dependencyIds) : Reaches bags b id := by
  induction h with
  | edge h => exact .step h ht (.edge hid)
  | step h hu _ ih => exact .step h hu (ih ht)

lemma lookup_of_erase (h : (Dict.erase id fresh).lookup last = some t) :
    fresh.lookup last = some t := by
  rw [Dict.lookup_erase] at h
  split at h
  · cases h
  · exact h

lemma Reaches.avoid (h : Reaches fresh b last) (ht : fresh.lookup id = some t) :
    Reaches (Dict.erase id fresh) b last ∨ Reaches (Dict.erase id fresh) t last := by
  induction h with
  | edge h => exact Or.inl (.edge h)
  | @step b u next last h hu _ ih =>
    rcases ih with ih | ih
    · by_cases hn : next = id
      · subst hn
        obtain rfl := Option.some.inj (hu.symm.trans ht)
        exact Or.inr ih
      · have hu' : (Dict.erase id fresh).lookup next = some u := by
          rw [Dict.lookup_erase, if_neg hn, hu]
        exact Or.inl (.step h hu' ih)
    · exact Or.inr ih

lemma Reaches.cases_fresh (h : Reaches fresh b last) : last ∈ b.dependencyIds ∨
    ∃ id ∈ b.dependencyIds, ∃ t, fresh.lookup id = some t ∧
      Reaches (Dict.erase id fresh) t last := by
  cases h with
  | edge h => exact Or.inl h
  | @step _ t id _ h ht hl =>
    refine Or.inr ⟨id, h, t, ht, ?_⟩
    rcases hl.avoid ht with hl | hl <;> exact hl

lemma contains_of_lookup (h : fresh.lookup id = some t) : Dict.contains id fresh = true := by
  rw [Dict.contains, h]
  rfl

lemma missing_of_error {f : StoreError} (h : b.expandAmong bags fresh = .error f) :
    ∃ owner id, f = .corrupt owner.id (.missing id) ∧
      (owner = b ∨ ∃ key, Reaches bags b key ∧ bags.lookup key = some owner) ∧
      id ∈ owner.dependencyIds ∧ bags.lookup id = none := by
  induction hn : fresh.length using Nat.strong_induction_on generalizing fresh b with
  | _ n ih =>
    obtain ⟨e, he, hf⟩ := expandAmong_error h
    have hd : targetId e ∈ b.dependencyIds := mem_dependencyIds.2 ⟨e, he, rfl⟩
    rcases expandEntry_error hf with ⟨hnone, rfl⟩ | ⟨t, ht, hc, hx⟩
    · exact ⟨b, targetId e, rfl, Or.inl rfl, hd, hnone⟩
    · obtain ⟨owner, id, hf, howner, hid, hnone⟩ :=
        ih _ (hn ▸ Dict.length_erase_lt hc) hx rfl
      refine ⟨owner, id, hf, Or.inr ?_, hid, hnone⟩
      rcases howner with rfl | ⟨key, hkey, hk⟩
      · exact ⟨targetId e, .edge hd, ht⟩
      · exact ⟨key, .step hd ht hkey, hk⟩

lemma stored_of_reaches (hsub : ∀ id t, fresh.lookup id = some t → bags.lookup id = some t)
    (h : b.expandAmong bags fresh = .ok x) (hr : Reaches fresh b last) :
    ∃ t, bags.lookup last = some t := by
  induction hn : fresh.length using Nat.strong_induction_on generalizing fresh b x with
  | _ n ih =>
    rcases hr.cases_fresh with hlast | ⟨id, hid, t, ht, hl⟩
    · obtain ⟨e, he, rfl⟩ := mem_dependencyIds.1 hlast
      obtain ⟨_, _, u, hu, _⟩ := expands_of_mem h he
      exact ⟨u, hu⟩
    · obtain ⟨e, he, rfl⟩ := mem_dependencyIds.1 hid
      obtain ⟨_, _, u, hu, hx⟩ := expands_of_mem h he
      obtain rfl := Option.some.inj (hu.symm.trans (hsub _ _ ht))
      have hc : Dict.contains (targetId e) fresh = true := contains_of_lookup ht
      rcases hx with ⟨_, y, hy, _⟩ | ⟨hc', _⟩
      · exact ih _ (hn ▸ Dict.length_erase_lt hc) (fun id t ht => hsub id t (lookup_of_erase ht))
          hy hl rfl
      · rw [hc] at hc'
        cases hc'

inductive Nests : Bag → List String → Bag → Prop
  | child {x y : Bag} (h : .expanded y ∈ x.entries) : Nests x [x.id] y
  | deeper {x z y : Bag} {path : List String} (h : .expanded z ∈ x.entries) (hy : Nests z path y) :
      Nests x (x.id :: path) y

lemma Nests.entries_ne_nil {path : List String} (h : Nests x path y) : x.entries ≠ [] := by
  cases h with
  | child h => exact List.ne_nil_of_mem h
  | deeper h _ => exact List.ne_nil_of_mem h

def AllExpanded (x : Bag) : Prop :=
  ∀ e ∈ x.entries, ∃ y, e = .expanded y

def FreshOff (bags fresh : List (String × Bag)) (path : List String) : Prop :=
  ∀ id, Dict.contains id fresh = true ↔ Dict.contains id bags = true ∧ id ∉ path

lemma contains_erase {key : String} : Dict.contains id (Dict.erase key fresh) = true ↔
    Dict.contains id fresh = true ∧ id ≠ key := by
  rw [Dict.contains, Dict.contains, Dict.lookup_erase]
  by_cases h : id = key <;> simp [h]

lemma FreshOff.erase {path : List String} (h : FreshOff bags fresh path) (key : String) :
    FreshOff bags (Dict.erase key fresh) (path ++ [key]) := by
  intro id
  rw [contains_erase, h id, List.mem_append, List.mem_singleton, not_or, and_assoc]

lemma allExpanded (h : b.expandAmong bags fresh = .ok x) : x.AllExpanded := by
  intro e he
  obtain ⟨_, _, t, _, ⟨_, y, _, rfl⟩ | ⟨_, rfl⟩⟩ := expands_to_mem h he
  · exact ⟨y, rfl⟩
  · exact ⟨_, rfl⟩

section

variable (hkeyed : ∀ id t, bags.lookup id = some t → t.id = id)

include hkeyed

lemma targetId_expands {e e' : DependencyEntry Bag} (h : Expands bags fresh e e') :
    targetId e' = targetId e := by
  obtain ⟨t, ht, ⟨_, y, hy, rfl⟩ | ⟨_, rfl⟩⟩ := h
  · exact (congrArg Header.id (header_expandAmong hy)).trans (hkeyed _ _ ht)
  · have hid := hkeyed _ _ ht
    exact hid

lemma collapsed_expandAmong (h : b.expandAmong bags fresh = .ok x) :
    x.collapsed = b.collapsed := by
  obtain ⟨dependencies, rfl, hd⟩ := expandAmong_ok h
  have heq : Dict.mapValues (·.map fun e => (.id (targetId e) : DependencyEntry Bag)) dependencies =
      Dict.mapValues (·.map fun e => .id (targetId e)) b.dependencies := by
    apply (List.forall₂_eq_eq_eq ▸ List.rel_map _ hd).symm
    rintro ⟨name, es⟩ ⟨name', es'⟩ ⟨rfl, hes⟩
    refine Prod.ext rfl (List.forall₂_eq_eq_eq ▸ List.rel_map ?_ hes)
    intro e e' he
    exact congrArg DependencyEntry.id (targetId_expands hkeyed he).symm
  unfold collapsed
  rw [heq]

lemma child_expandAmong {path : List String} (h : b.expandAmong bags fresh = .ok x)
    (hfresh : FreshOff bags fresh path) (hy : .expanded y ∈ x.entries) :
    ∃ t, t.id = y.id ∧ bags.lookup y.id = some t ∧
      ((y.id ∈ path ∧ y = t.withoutDependencies) ∨
        (y.id ∉ path ∧ t.expandAmong bags (Dict.erase y.id fresh) = .ok y)) := by
  obtain ⟨e, _, hexp⟩ := expands_to_mem h hy
  have hid : y.id = targetId e := targetId_expands hkeyed hexp
  obtain ⟨t, ht, hcase⟩ := hexp
  rw [← hid] at ht hcase
  refine ⟨t, hkeyed _ _ ht, ht, ?_⟩
  rcases hcase with ⟨hc, z, hz, he⟩ | ⟨hc, he⟩
  · obtain rfl := DependencyEntry.expanded.inj he
    exact Or.inr ⟨((hfresh _).1 hc).2, hz⟩
  · obtain rfl := DependencyEntry.expanded.inj he
    refine Or.inl ⟨?_, rfl⟩
    by_contra hpath
    have hfound := (hfresh _).2 ⟨contains_of_lookup ht, hpath⟩
    rw [hc] at hfound
    cases hfound

lemma Nests.origin {above path : List String} (hy : Nests x path y)
    (h : b.expandAmong bags fresh = .ok x) (hfresh : FreshOff bags fresh (above ++ [b.id]))
    (hnodup : (above ++ [b.id]).Nodup) (hb : Dict.contains b.id bags = true) :
    (above ++ path).Nodup ∧ (∀ id ∈ path, Dict.contains id bags = true) ∧
      ∃ t, bags.lookup y.id = some t ∧
        ((y.id ∈ above ++ path ∧ y = t.withoutDependencies) ∨
          (y.id ∉ above ++ path ∧ ∃ fresh, t.expandAmong bags fresh = .ok y)) := by
  induction hy generalizing above fresh b with
  | @child x y he =>
    have hid : x.id = b.id := congrArg Header.id (header_expandAmong h)
    obtain ⟨t, _, ht, hcase⟩ := child_expandAmong hkeyed h hfresh he
    rw [hid]
    refine ⟨hnodup, by simpa using hb, t, ht, hcase.imp_right fun hexp => ?_⟩
    exact ⟨hexp.1, _, hexp.2⟩
  | @deeper x z y path he hy ih =>
    have hid : x.id = b.id := congrArg Header.id (header_expandAmong h)
    obtain ⟨t, htid, ht, ⟨_, rfl⟩ | ⟨hoff, hz⟩⟩ := child_expandAmong hkeyed h hfresh he
    · exact absurd rfl hy.entries_ne_nil
    · have hnodup' : ((above ++ [b.id]) ++ [t.id]).Nodup := by
        rw [htid]
        exact List.nodup_append.2 ⟨hnodup, List.nodup_singleton _, by
          intro id hm _ hz heq
          rw [List.mem_singleton.1 hz] at heq
          exact hoff (heq ▸ hm)⟩
      have hfresh' := hfresh.erase z.id
      rw [← htid] at hz hfresh' ht
      obtain ⟨hn, hstored, u, hu, hcase⟩ := ih hz hfresh' hnodup' (contains_of_lookup ht)
      rw [List.append_assoc, List.singleton_append] at hn hcase
      rw [hid]
      exact ⟨hn, List.forall_mem_cons.2 ⟨hb, hstored⟩, u, hu, hcase⟩

end

end Bag

namespace Store

variable {s : Store} {b x : Bag}

/-- An expansion of a stored bag: as the bag up to its dependencies, which are bags at every depth.
These are as stored up to their own dependencies, and those are left out where a bag occurs below
itself. -/
structure Unfolds (s : Store) (b x : Bag) : Prop where
  collapsed : x.collapsed = b.collapsed
  complete : x.AllExpanded
  nested : ∀ path y, x.Nests path y → y.AllExpanded ∧ path.Nodup ∧ path.length ≤ s.size ∧
    ∃ t, s.find? y.id = some t ∧ (y.id ∈ path → y = t.withoutDependencies) ∧
      (y.id ∉ path → y.collapsed = t.collapsed)

lemma freshOff_erase (bags : List (String × Bag)) (key : String) :
    Bag.FreshOff bags (Dict.erase key bags) [key] := by
  intro id
  rw [Bag.contains_erase, List.mem_singleton]

lemma length_le_size {path : List String} (hn : path.Nodup)
    (h : ∀ id ∈ path, Dict.contains id s.bags = true) : path.length ≤ s.size := by
  have hsub : path ⊆ Dict.keys s.bags := by
    intro id hid
    have hc := h id hid
    rw [Dict.contains, Option.isSome_iff_ne_none, ne_eq, Dict.lookup_eq_none, not_not] at hc
    exact hc
  have hle := (List.subperm_of_subset hn hsub).length_le
  rwa [Dict.keys, List.length_map] at hle

lemma unfolds_of_expand (hs : s.Keyed) (hb : s.find? b.id = some b)
    (h : b.expand s.bags = .ok x) : s.Unfolds b x := by
  refine ⟨Bag.collapsed_expandAmong hs h, Bag.allExpanded h, ?_⟩
  intro path y hy
  have hfresh : Bag.FreshOff s.bags (Dict.erase b.id s.bags) ([] ++ [b.id]) :=
    freshOff_erase s.bags b.id
  obtain ⟨hn, hstored, t, ht, hcase⟩ :=
    hy.origin hs h hfresh (List.nodup_singleton b.id) (Bag.contains_of_lookup hb)
  rw [List.nil_append] at hn hcase
  have hlen := length_le_size hn hstored
  rcases hcase with ⟨hmem, rfl⟩ | ⟨hmem, fresh, hexp⟩
  · refine ⟨?_, hn, hlen, t, ht, fun _ => rfl, fun hoff => absurd hmem hoff⟩
    intro e he
    cases he
  · exact ⟨Bag.allExpanded hexp, hn, hlen, t, ht, fun hon => absurd hon hmem,
      fun _ => Bag.collapsed_expandAmong hs hexp⟩

lemma stored_of_expand (hb : s.find? b.id = some b) (h : b.expand s.bags = .ok x) {id : String}
    (hr : b.Reaches s.bags id) : ∃ t, s.find? id = some t := by
  have hr' : Bag.Reaches (Dict.erase b.id s.bags) b id := by
    rcases hr.avoid hb with hr' | hr' <;> exact hr'
  exact Bag.stored_of_reaches (fun _ _ ht => Bag.lookup_of_erase ht) h hr'

/-- Expansion goes through exactly if all that is reached is stored. It otherwise names a bag and an
id among its dependencies that is not. -/
theorem expand_exact (hs : s.Keyed) (hb : s.find? b.id = some b) :
    ((∃ x, b.expand s.bags = .ok x) ↔ ∀ id, b.Reaches s.bags id → ∃ t, s.find? id = some t) ∧
    (∀ f, b.expand s.bags = .error f → ∃ owner id, f = .corrupt owner.id (.missing id) ∧
      (owner = b ∨ ∃ key, b.Reaches s.bags key ∧ s.find? key = some owner) ∧
      id ∈ owner.dependencyIds ∧ s.find? id = none) ∧
    ∀ x, b.expand s.bags = .ok x → s.Unfolds b x := by
  refine ⟨⟨fun ⟨x, h⟩ id hr => stored_of_expand hb h hr, fun hall => ?_⟩,
    fun f h => Bag.missing_of_error h, fun x h => unfolds_of_expand hs hb h⟩
  cases h : b.expand s.bags with
  | ok x => exact ⟨x, rfl⟩
  | error f =>
    obtain ⟨owner, id, _, howner, hid, hnone⟩ := Bag.missing_of_error h
    have hr : b.Reaches s.bags id := by
      rcases howner with rfl | ⟨key, hkey, hk⟩
      · exact .edge hid
      · exact hkey.trans hk hid
    obtain ⟨t, ht⟩ := hall id hr
    cases hnone.symm.trans ht

namespace Sample

def linked (id : String) (next : List String) : Bag where
  id := id
  name := id
  version := "1.0.0"
  visibility := .personal
  state := .creating
  owner := none
  createdAt := ⟨0, 0⟩
  updatedAt := ⟨0, 0⟩
  publishedAt := none
  deletedAt := none
  tags := []
  description := none
  typeName := "Node"
  typeVersion := "1.0.0"
  properties := []
  blobs := []
  dependencies := [("next", next.map .id)]

def first : Bag :=
  linked "a" ["b", "a"]

def ring : Store :=
  (({} : Store).put first).put (linked "b" ["a"])

lemma keyed_ring : ring.Keyed := by
  have hempty : ({} : Store).Keyed := by
    intro id b h
    cases h
  exact (hempty.put _).put _

lemma find?_ring {id : String} (h : id = "a" ∨ id = "b") : ∃ t, ring.find? id = some t ∧
    ∀ next ∈ t.dependencyIds, next = "a" ∨ next = "b" := by
  rcases h with rfl | rfl
  · exact ⟨first, rfl, by simp [first, linked, Bag.dependencyIds]⟩
  · exact ⟨linked "b" ["a"], rfl, by simp [linked, Bag.dependencyIds]⟩

lemma reaches_ring {b : Bag} {id : String} (h : b.Reaches ring.bags id)
    (hb : ∀ next ∈ b.dependencyIds, next = "a" ∨ next = "b") : id = "a" ∨ id = "b" := by
  induction h with
  | edge h => exact hb _ h
  | step h ht _ ih =>
    obtain ⟨u, hu, hnext⟩ := find?_ring (hb _ h)
    obtain rfl := Option.some.inj (hu.symm.trans ht)
    exact ih hnext

theorem expand_exact_ring : ring.Keyed ∧ ring.find? first.id = some first ∧
    ∃ x, first.expand ring.bags = .ok x ∧ ring.Unfolds first x := by
  have hfirst : ring.find? first.id = some first := rfl
  obtain ⟨htotal, _, hunfolds⟩ := expand_exact keyed_ring hfirst
  obtain ⟨_, ht, hnext⟩ := find?_ring (Or.inl rfl)
  obtain rfl := Option.some.inj (ht.symm.trans hfirst)
  obtain ⟨x, hx⟩ := htotal.2 fun id hr => by
    obtain ⟨t, ht, _⟩ := find?_ring (reaches_ring hr hnext)
    exact ⟨t, ht⟩
  exact ⟨keyed_ring, hfirst, x, hx, hunfolds x hx⟩

end Sample

end Store

end TypedArtifacts
