import TypedArtifacts.Proofs.Engine.Navigation

namespace TypedArtifacts

namespace Artifact

def Incomplete (a : Artifact) : Prop :=
  ∃ e ∈ a.fields, (e.2.definition.role = .dependency ∨ e.2.definition.role = .blob) ∧
    e.2.definition.required = true ∧ (e.2.value? = none ∨ e.2.value? = some (.list []))

lemma isPopulated_eq_false {v : Option (Value Artifact)} :
    isPopulated v = false ↔ v = none ∨ v = some (.list []) := by
  cases v with
  | none => simp [isPopulated]
  | some v => cases v <;> simp [isPopulated]

lemma checkPublishable_eq_ok (a : Artifact) : a.checkPublishable = .ok () ↔ ¬ a.Incomplete := by
  have hmem : ∀ e, e ∈ a.fieldsOf .dependency ++ a.fieldsOf .blob ↔
      e ∈ a.fields ∧ (e.2.definition.role = .dependency ∨ e.2.definition.role = .blob) := by
    intro e
    simp only [List.mem_append, mem_fieldsOf, and_or_left]
  rw [checkPublishable]
  split
  · rename_i name f hfound
    have hm := (hmem _).1 (List.mem_of_find?_eq_some hfound)
    have hunset := List.find?_some hfound
    simp only [Bool.and_eq_true, Bool.not_eq_true', isPopulated_eq_false] at hunset
    have hincomplete : a.Incomplete := ⟨_, hm.1, hm.2, hunset⟩
    simp [hincomplete]
  · rename_i hnone
    refine iff_of_true rfl ?_
    rintro ⟨e, he, hrole, hrequired, hunset⟩
    have hset := List.find?_eq_none.1 hnone e ((hmem e).2 ⟨he, hrole⟩)
    simp [hrequired, isPopulated_eq_false.2 hunset] at hset

lemma mem_populatedDependencies {a t : Artifact} :
    t ∈ a.populatedDependencies.flatMap (·.2) ↔
      ∃ e ∈ a.fieldsOf .dependency, t ∈ targets e.2.value? := by
  simp only [populatedDependencies, List.mem_flatMap, List.mem_filter, List.mem_map]
  constructor
  · rintro ⟨_, ⟨⟨e, he, rfl⟩, _⟩, ht⟩
    exact ⟨e, he, ht⟩
  · rintro ⟨e, he, ht⟩
    refine ⟨_, ⟨⟨e, he, rfl⟩, ?_⟩, ht⟩
    simpa using List.ne_nil_of_mem ht

lemma itemsOf_targetIds (v : Option (Value Artifact)) :
    ((Bag.itemsOf (fun v => v.artifact?.map fun t => (.id t.id : DependencyEntry Bag)) v).getD
      []).map Bag.targetId = (targets v).map (·.id) := by
  cases v with
  | none => rfl
  | some v =>
    cases v with
    | list vs => simp [Bag.itemsOf, targets, List.map_filterMap, Option.map_map, Function.comp_def]
    | _ => rfl

lemma mem_dependencyIds_ofArtifact {a : Artifact} {id : String} :
    id ∈ (Bag.ofArtifact a).dependencyIds ↔
      ∃ e ∈ a.fieldsOf .dependency, ∃ t ∈ targets e.2.value?, t.id = id := by
  rw [Bag.dependencyIds, List.mem_flatMap]
  constructor
  · rintro ⟨⟨name, entries⟩, hm, hid⟩
    obtain ⟨f, hf, hi⟩ := Sound.mem_selected.1 hm
    have hids := itemsOf_targetIds f.value?
    rw [hi, Option.getD_some] at hids
    have ht : id ∈ (targets f.value?).map (·.id) := hids ▸ hid
    exact ⟨(name, f), hf, List.mem_map.1 ht⟩
  · rintro ⟨e, he, t, ht, rfl⟩
    have hids := itemsOf_targetIds e.2.value?
    have hmem : t.id ∈ (targets e.2.value?).map (·.id) := List.mem_map_of_mem ht
    rw [← hids] at hmem
    cases hi : Bag.itemsOf (fun v => v.artifact?.map fun t => (.id t.id : DependencyEntry Bag))
        e.2.value? with
    | none => simp [hi] at hmem
    | some entries =>
      rw [hi, Option.getD_some] at hmem
      exact ⟨(e.1, entries), Sound.mem_selected.2 ⟨e.2, he, hi⟩, hmem⟩

end Artifact

namespace Engine

section

variable [Predicates Artifact]

def Inactive (e : Engine) (id : String) : Prop :=
  (∃ f, e.get id = .error f) ∨ ∃ s, e.store.find? id = some s ∧ s.state ≠ .active

def Unready (e : Engine) (a : Artifact) : Prop :=
  ∃ p ∈ a.fieldsOf .dependency, ∃ t ∈ Artifact.targets p.2.value?, e.Inactive t.id

lemma lookup_eq_ok {e : Engine} {id : String} {a : Artifact} :
    e.lookup id = .ok a ↔ e.get id = .ok a := by
  rw [lookup]
  split
  · rename_i h
    simp [h]
  · exact Iff.rfl

lemma checkActive_eq_ok {e : Engine} {a t : Artifact} :
    e.checkActive a t = .ok () ↔ ¬ e.Inactive t.id := by
  rw [checkActive, Outcome.bind_eq_ok]
  simp only [lookup_eq_ok]
  constructor
  · rintro ⟨current, hget, hactive⟩ (⟨f, hf⟩ | ⟨s, hs, hne⟩)
    · rw [hget] at hf
      cases hf
    · obtain ⟨b, hb, hheader⟩ := header_get hget
      obtain rfl := Option.some.inj (hb.symm.trans hs)
      split at hactive
      · rename_i hstate
        exact hne ((congrArg Header.state hheader).symm.trans hstate)
      · cases hactive
  · intro h
    cases hget : e.get t.id with
    | error f => exact absurd (Or.inl ⟨f, hget⟩) h
    | ok current =>
      refine ⟨current, rfl, ?_⟩
      obtain ⟨s, hs, hheader⟩ := header_get hget
      have hstate : s.state = .active := by
        by_contra hne
        exact h (Or.inr ⟨s, hs, hne⟩)
      rw [if_pos ((congrArg Header.state hheader).trans hstate)]
      rfl

lemma checkPublication_eq_ok {e : Engine} {a : Artifact} :
    e.checkPublication a = .ok () ↔ ¬ (a.Incomplete ∨ e.Unready a) := by
  have hready : (a.populatedDependencies.flatMap (·.2)).forM (e.checkActive a) = .ok () ↔
      ¬ e.Unready a := by
    rw [Outcome.forM_eq_ok]
    simp only [checkActive_eq_ok, Artifact.mem_populatedDependencies, Unready]
    constructor
    · rintro h ⟨p, hp, t, ht, hinactive⟩
      exact h t ⟨p, hp, ht⟩ hinactive
    · rintro h t ⟨p, hp, ht⟩ hinactive
      exact h ⟨p, hp, t, ht, hinactive⟩
  rw [checkPublication, Outcome.bind_eq_ok, not_or, ← Artifact.checkPublishable_eq_ok, ← hready]
  constructor
  · rintro ⟨_, hcomplete, hactive⟩
    exact ⟨Outcome.mapError_eq_ok.1 hcomplete, hactive⟩
  · rintro ⟨hcomplete, hactive⟩
    exact ⟨(), Outcome.mapError_eq_ok.2 hcomplete, hactive⟩

/-- Publication is refused, and leaves the engine as it was, exactly if a required dependency or blob
is missing, something referred to is not stored as active, or the artifact itself is not stored as in
creation. Else its bag is stored as active and no other is touched. Of what it refers to, only the
ids count. -/
theorem publish_guarded {e : Engine} {a : Artifact} {stored : Bag}
    (hs : e.store.find? a.id = some stored) (now : Instant) :
    (a.Incomplete ∨ e.Unready a ∨ stored.state ≠ .creating →
      (∃ f, (e.publish now a).2 = .error f) ∧ (e.publish now a).1 = e) ∧
    (¬ (a.Incomplete ∨ e.Unready a ∨ stored.state ≠ .creating) →
      (e.publish now a).1.store.find? a.id =
          some { (Bag.ofArtifact a).collapsed with
            state := .active, publishedAt := some now, updatedAt := now } ∧
        (∀ id, id ≠ a.id → (e.publish now a).1.store.find? id = e.store.find? id) ∧
        (e.publish now a).2 = (e.publish now a).1.get a.id) ∧
    (e.Unready a ↔ ∃ id ∈ (Bag.ofArtifact a).dependencyIds, e.Inactive id) := by
  refine ⟨fun h => ?_, fun h => ?_, ?_⟩
  · rw [publish_eq]
    cases hc : e.checkPublication a with
    | error f => exact ⟨⟨f, rfl⟩, rfl⟩
    | ok _ =>
      rw [← or_assoc] at h
      have hstate := h.resolve_left (checkPublication_eq_ok.1 hc)
      rw [hs]
      dsimp only
      rw [if_neg hstate]
      exact ⟨⟨_, rfl⟩, rfl⟩
  · rw [← or_assoc, not_or, not_not] at h
    obtain ⟨hchecked, hstate⟩ := h
    have hpublish : e.publish now a = e.written
        { Bag.ofArtifact a with state := .active, publishedAt := some now, updatedAt := now } := by
      rw [publish_eq, checkPublication_eq_ok.2 hchecked, hs]
      exact if_pos hstate
    rw [hpublish]
    exact ⟨Store.find?_put_self _ e.store, fun id hid => Store.find?_put_of_ne hid e.store,
      written_result e _⟩
  · simp only [Artifact.mem_dependencyIds_ofArtifact, Unready]
    constructor
    · rintro ⟨p, hp, t, ht, hinactive⟩
      exact ⟨t.id, ⟨p, hp, t, ht, rfl⟩, hinactive⟩
    · rintro ⟨_, ⟨p, hp, t, ht, rfl⟩, hinactive⟩
      exact ⟨p, hp, t, ht, hinactive⟩

end

namespace Sample

attribute [local instance] Predicates.parityAndSize ArtifactPredicates.owned

def live : Artifact :=
  { lone with state := .active }

def misled : Artifact :=
  (other.set "next" (some (.artifact live))).toOption.get rfl

def lively : Engine :=
  { paired with store := paired.store.put (.ofArtifact live) }

lemma get_live : lively.get "a" = .ok live := by
  rw [get_leaf (b := .ofArtifact live) rfl rfl]
  rfl

lemma ready_follower : ¬ lively.Unready follower := by
  rintro ⟨p, hp, t, ht, hinactive⟩
  obtain rfl := List.mem_singleton.1 hp
  obtain rfl := List.mem_singleton.1 ht
  rcases hinactive with ⟨f, hf⟩ | ⟨s, hs, hne⟩
  · have hget : lively.get "a" = .error f := hf
    rw [get_live] at hget
    cases hget
  · obtain rfl : Bag.ofArtifact live = s := Option.some.inj hs
    exact hne rfl

theorem publish_guarded_nodes :
    (paired.store.find? "b" = some (Bag.ofArtifact follower) ∧
      (∃ f, (paired.publish ⟨2, 0⟩ misled).2 = .error f) ∧
      (paired.publish ⟨2, 0⟩ misled).1 = paired) ∧
    lively.store.find? "b" = some (Bag.ofArtifact follower) ∧
      (lively.publish ⟨2, 0⟩ follower).1.store.find? "b" =
        some { (Bag.ofArtifact follower).collapsed with
          state := .active, publishedAt := some ⟨2, 0⟩, updatedAt := ⟨2, 0⟩ } := by
  have hpaired : paired.store.find? misled.id = some (Bag.ofArtifact follower) := rfl
  have hlively : lively.store.find? follower.id = some (Bag.ofArtifact follower) := rfl
  have hcreating : ¬ (Bag.ofArtifact follower).state ≠ .creating := fun h => h rfl
  have hunready : paired.Unready misled :=
    ⟨_, List.mem_singleton_self _, live, List.mem_singleton_self _,
      Or.inr ⟨Bag.ofArtifact lone, rfl, nofun⟩⟩
  have hcomplete : ¬ follower.Incomplete := by
    rintro ⟨e, he, _, hrequired, _⟩
    obtain rfl := List.mem_singleton.1 he
    cases hrequired
  refine ⟨⟨hpaired, (publish_guarded hpaired _).1 (Or.inr (Or.inl hunready))⟩, hlively, ?_⟩
  refine ((publish_guarded hlively _).2.1 ?_).1
  rintro (h | h | h)
  · exact hcomplete h
  · exact ready_follower h
  · exact hcreating h

end Sample

end Engine

end TypedArtifacts
