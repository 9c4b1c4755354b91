import TypedArtifacts.Proofs.Artifact.Respect
import TypedArtifacts.Proofs.Definition.Consistent

/-! Which validators are in force after any sequence of facets. -/

namespace TypedArtifacts

namespace Validator

variable {ρ : Type} {u v : Validator ρ} {us vs : List (Validator ρ)} {slot : String}

def slots (vs : List (Validator ρ)) : List String :=
  vs.map (·.slot)

def lastIn? (vs : List (Validator ρ)) (slot : String) : Option (Validator ρ) :=
  vs.reverse.find? (·.slot = slot)

def inForce (vs : List (Validator ρ)) : List (Validator ρ) :=
  (slots vs).eraseDups.filterMap (lastIn? vs)

lemma slots_install (v : Validator ρ) (vs : List (Validator ρ)) :
    slots (v.install vs) = if v.slot ∈ slots vs then slots vs else slots vs ++ [v.slot] := by
  induction vs with
  | nil => rfl
  | cons w ws ih =>
    rw [install]
    by_cases h : w.slot = v.slot
    · simp [slots, h]
    · have hne : v.slot ≠ w.slot := Ne.symm h
      rw [if_neg h]
      simp only [slots, List.map_cons, List.mem_cons, hne, false_or] at ih ⊢
      rw [ih]
      exact apply_ite (w.slot :: ·) _ _ _

lemma find?_install (v : Validator ρ) (vs : List (Validator ρ)) (slot : String) :
    (v.install vs).find? (·.slot = slot) =
      if v.slot = slot then some v else vs.find? (·.slot = slot) := by
  induction vs with
  | nil => by_cases h : v.slot = slot <;> simp [install, h]
  | cons w ws ih =>
    rw [install]
    by_cases h : w.slot = v.slot
    · by_cases hs : v.slot = slot <;> simp [h, hs]
    · rw [if_neg h]
      by_cases hw : w.slot = slot
      · have hv : v.slot ≠ slot := fun hv => h (hw.trans hv.symm)
        simp [hw, hv]
      · simp [hw, ih]

lemma lastIn?_concat (us : List (Validator ρ)) (v : Validator ρ) (slot : String) :
    lastIn? (us ++ [v]) slot = if v.slot = slot then some v else lastIn? us slot := by
  by_cases h : v.slot = slot <;> simp [lastIn?, h]

lemma lastIn?_eq_none (h : slot ∉ slots vs) : lastIn? vs slot = none := by
  rw [lastIn?, List.find?_eq_none]
  intro v hv hs
  exact h (List.mem_map.2 ⟨v, List.mem_reverse.1 hv, of_decide_eq_true hs⟩)

lemma installAll_concat (vs us : List (Validator ρ)) (u : Validator ρ) :
    installAll vs (us ++ [u]) = u.install (installAll vs us) := by
  simp [installAll]

lemma eraseDups_concat (ss : List String) (s : String) :
    (ss ++ [s]).eraseDups = if s ∈ ss.eraseDups then ss.eraseDups else ss.eraseDups ++ [s] := by
  rw [List.eraseDups_append]
  by_cases h : s ∈ ss
  · simp [List.removeAll, h]
  · simp [List.removeAll, h, List.eraseDups_cons]

lemma eraseDups_of_nodup {ss : List String} (h : ss.Nodup) : ss.eraseDups = ss := by
  induction ss using List.reverseRecOn with
  | nil => rfl
  | append_singleton ss s ih =>
    obtain ⟨hss, _, hs⟩ := List.nodup_append.1 h
    have hnot : s ∉ ss := fun hm => hs s hm s (List.mem_singleton_self s) rfl
    rw [eraseDups_concat, ih hss, if_neg hnot]

lemma lastIn?_of_nodup (h : (slots vs).Nodup) (slot : String) :
    lastIn? vs slot = vs.find? (·.slot = slot) := by
  induction vs using List.reverseRecOn with
  | nil => rfl
  | append_singleton vs v ih =>
    rw [slots, List.map_append] at h
    obtain ⟨hvs, _, hv⟩ := List.nodup_append.1 h
    rw [lastIn?_concat, ih hvs, List.find?_append]
    by_cases hs : v.slot = slot
    · have hnone : vs.find? (·.slot = slot) = none := by
        rw [List.find?_eq_none]
        intro w hw hws
        have hslot : w.slot = v.slot := (of_decide_eq_true hws).trans hs.symm
        exact hv w.slot (List.mem_map_of_mem hw) v.slot (by simp) hslot
      simp [hs, hnone]
    · simp [hs]

lemma slots_installAll (h : (slots vs).Nodup) (us : List (Validator ρ)) :
    slots (installAll vs us) = (slots (vs ++ us)).eraseDups := by
  -- The last of a slot counts, so the validators are taken off at the end.
  induction us using List.reverseRecOn with
  | nil => simpa [installAll] using (eraseDups_of_nodup h).symm
  | append_singleton us u ih =>
    have hslots : slots (vs ++ (us ++ [u])) = slots (vs ++ us) ++ [u.slot] := by simp [slots]
    rw [installAll_concat, slots_install, hslots, eraseDups_concat, ih]

lemma find?_installAll (h : (slots vs).Nodup) (us : List (Validator ρ)) (slot : String) :
    (installAll vs us).find? (·.slot = slot) = lastIn? (vs ++ us) slot := by
  induction us using List.reverseRecOn with
  | nil => simpa [installAll] using (lastIn?_of_nodup h slot).symm
  | append_singleton us u ih =>
    rw [installAll_concat, find?_install, ← List.append_assoc, lastIn?_concat, ih]

lemma nodup_installAll (h : (slots vs).Nodup) (us : List (Validator ρ)) :
    (slots (installAll vs us)).Nodup := by
  induction us using List.reverseRecOn with
  | nil => exact h
  | append_singleton us u ih =>
    rw [installAll_concat]
    exact nodup_install u ih

lemma filterMap_find? (h : (slots vs).Nodup) :
    (slots vs).filterMap (fun slot => vs.find? (·.slot = slot)) = vs := by
  induction vs with
  | nil => rfl
  | cons v vs ih =>
    obtain ⟨hv, hvs⟩ := List.nodup_cons.1 h
    have hrest : ∀ slot ∈ slots vs,
        (v :: vs).find? (·.slot = slot) = vs.find? (·.slot = slot) := by
      intro slot hs
      have hne : v.slot ≠ slot := by
        rintro rfl
        exact hv hs
      simp [hne]
    have hfirst : (v :: vs).find? (·.slot = v.slot) = some v := by simp
    have hcons : slots (v :: vs) = v.slot :: slots vs := rfl
    simp only [hcons, List.filterMap_cons, hfirst, List.filterMap_congr hrest, ih hvs]

theorem installAll_eq (h : (slots vs).Nodup) (us : List (Validator ρ)) :
    installAll vs us = inForce (vs ++ us) := by
  have hfind : (fun slot => (installAll vs us).find? (·.slot = slot)) = lastIn? (vs ++ us) :=
    funext (find?_installAll h us)
  rw [inForce, ← slots_installAll h us, ← hfind, filterMap_find? (nodup_installAll h us)]

end Validator

section

variable {ρ : Type}

namespace Definition

open Validator

def history (d : Definition ρ) (facets : List (Facet ρ)) : List (Validator ρ) :=
  d.validators ++ facets.filterMap (·.validator? d.kind)

lemma validators_applyAll (facets : List (Facet ρ)) (d : Definition ρ) :
    (d.applyAll facets).validators =
      installAll d.validators (facets.filterMap (·.validator? d.kind)) := by
  induction facets generalizing d with
  | nil => rfl
  | cons f facets ih =>
    have hcons : d.applyAll (f :: facets) = (d.apply f).applyAll facets := rfl
    rw [hcons, ih, kind_apply, validators_apply, List.filterMap_cons]
    cases f.validator? d.kind <;> rfl

lemma kind_applyAll (facets : List (Facet ρ)) (d : Definition ρ) :
    (d.applyAll facets).kind = d.kind := by
  induction facets generalizing d with
  | nil => rfl
  | cons f facets ih => exact (ih (d.apply f)).trans (kind_apply f d)

lemma validator?_of_misapplied {f : Facet ρ} {d : Definition ρ} (h : ¬f.Applies d) :
    f.validator? d.kind = none := by
  cases f with
  | pattern source =>
    simp only [Facet.Applies, not_and_or, not_not] at h
    rcases h with h | h <;> simp [Facet.validator?, h]
  | limit l => simpa [Facet.validator?, Facet.Applies] using h
  | mutable => rfl
  | _ => exact absurd trivial h

lemma applyAll_concat (facets : List (Facet ρ)) (f : Facet ρ) (d : Definition ρ) :
    d.applyAll (facets ++ [f]) = (d.applyAll facets).apply f := by
  simp [applyAll]

lemma forall_mem_iff {vs : List (Validator ρ)} (h : (slots vs).Nodup) {P : Validator ρ → Prop} :
    (∀ w ∈ vs, P w) ↔ ∀ slot w, vs.find? (·.slot = slot) = some w → P w := by
  constructor
  · intro hall slot w hw
    exact hall w (List.mem_of_find?_eq_some hw)
  · intro hall w hw
    exact hall w.slot w (find?_slot h hw rfl)

namespace Built

variable {d : Definition ρ}

lemma applyAll_eq (h : d.Built) (facets : List (Facet ρ)) :
    (d.applyAll facets).validators = inForce (d.history facets) := by
  rw [validators_applyAll]
  exact installAll_eq h.nodup _

lemma slots_applyAll (h : d.Built) (facets : List (Facet ρ)) :
    slots (d.applyAll facets).validators = (slots (d.history facets)).eraseDups := by
  rw [validators_applyAll]
  exact slots_installAll h.nodup _

lemma nodup_applyAll (h : d.Built) (facets : List (Facet ρ)) :
    (slots (d.applyAll facets).validators).Nodup := by
  rw [validators_applyAll]
  exact nodup_installAll h.nodup _

lemma find?_applyAll (h : d.Built) (facets : List (Facet ρ)) (slot : String) :
    (d.applyAll facets).validators.find? (·.slot = slot) = lastIn? (d.history facets) slot := by
  rw [validators_applyAll]
  exact find?_installAll h.nodup _ slot

lemma forall_applyAll_iff (h : d.Built) (facets : List (Facet ρ)) {P : Validator ρ → Prop} :
    (∀ w ∈ (d.applyAll facets).validators, P w) ↔
      ∀ slot w, lastIn? (d.history facets) slot = some w → P w := by
  rw [forall_mem_iff (h.nodup_applyAll facets)]
  simp only [h.find?_applyAll]

end Built

section

variable [Referent ρ] [Predicates ρ]

lemma runValidators_eq_error {place : String} {v : Value ρ} {vs : List (Validator ρ)}
    {w : Validator ρ} (h : vs.find? (·.rule.violatedBy v) = some w) :
    runValidators place v vs = .error ⟨place, .rule w.message, some v.toJson⟩ := by
  induction vs with
  | nil => cases h
  | cons u us ih =>
    rw [runValidators]
    cases hu : u.rule.violatedBy v with
    | true =>
      simp only [List.find?_cons, hu] at h
      obtain rfl := Option.some.inj h
      exact if_pos rfl
    | false =>
      simp only [List.find?_cons, hu] at h
      exact ih h

/-- Whatever facets are applied and in whatever order, of each slot the last validator counts, and
the slots are asked in the order in which they were first used. -/
theorem facets_settle {d : Definition ρ} (hd : d.Built) (facets : List (Facet ρ)) :
    (d.applyAll facets).validators = inForce (d.history facets) ∧
    slots (d.applyAll facets).validators = (slots (d.history facets)).eraseDups ∧
    (slots (d.applyAll facets).validators).Nodup ∧
    (∀ slot, (d.applyAll facets).validators.find? (·.slot = slot) =
      lastIn? (d.history facets) slot) ∧
    (∀ f : Facet ρ, ¬f.Applies d →
      (d.applyAll (facets ++ [f])).validators = (d.applyAll facets).validators) ∧
    (∀ place v,
      (runValidators place v (d.applyAll facets).validators = .ok () ↔
        ∀ slot w, lastIn? (d.history facets) slot = some w → w.rule.violatedBy v = false) ∧
      ∀ w, (inForce (d.history facets)).find? (·.rule.violatedBy v) = some w →
        runValidators place v (d.applyAll facets).validators =
          .error ⟨place, .rule w.message, some v.toJson⟩) ∧
    ∀ (e : Definition ρ) (others : List (Facet ρ)), e.Built → e.kind = d.kind →
      (∀ slot, lastIn? (e.history others) slot = lastIn? (d.history facets) slot) →
      ∀ v, (e.applyAll others).Accepts v ↔ (d.applyAll facets).Accepts v := by
  refine ⟨hd.applyAll_eq facets, hd.slots_applyAll facets, hd.nodup_applyAll facets,
    hd.find?_applyAll facets, fun f hf => ?_, fun place v => ⟨?_, fun w hw => ?_⟩, ?_⟩
  · rw [applyAll_concat, validators_apply, kind_applyAll, validator?_of_misapplied hf]
    rfl
  · rw [runValidators_eq_ok, hd.forall_applyAll_iff]
  · rw [hd.applyAll_eq]
    exact runValidators_eq_error hw
  · intro e others he hkind hsame v
    rw [accepts_iff, accepts_iff, he.forall_applyAll_iff, hd.forall_applyAll_iff]
    simp only [hsame, kind_applyAll, hkind]

end

end Definition

end

namespace Definition.Sample

open Validator

attribute [local instance] Predicates.parityAndSize

def twoTexts : Definition Artifact :=
  .tuple [.scalar .string, .scalar .string]

def facets : List (Facet Artifact) := [
  .limit (.minSize 1),
  .limit (.minLength 3),
  .validator "arity" "Pair is empty" "non_empty",
  .limit .unique,
  .limit (.minSize 2)]

def fewer : List (Facet Artifact) := [
  .limit .unique,
  .limit (.minSize 2),
  .validator "arity" "Pair is empty" "non_empty"]

lemma built_twoTexts : twoTexts.Built :=
  .tuple fun d hd => by
    obtain rfl : d = .scalar .string := by simpa using hd
    exact .scalar .string

lemma lastIn?_fewer (slot : String) :
    lastIn? (twoTexts.history fewer) slot = lastIn? (twoTexts.history facets) slot := by
  by_cases hs : slot ∈ ["type", "arity", "min_size", "unique"]
  · simp only [List.mem_cons, List.not_mem_nil, or_false] at hs
    rcases hs with rfl | rfl | rfl | rfl <;> rfl
  · have hfewer : ∀ s ∈ slots (twoTexts.history fewer), s ∈ ["type", "arity", "min_size", "unique"] := by
      decide
    have hfacets : ∀ s ∈ slots (twoTexts.history facets), s ∈ ["type", "arity", "min_size", "unique"] := by
      decide
    rw [lastIn?_eq_none fun h => hs (hfewer _ h), lastIn?_eq_none fun h => hs (hfacets _ h)]

theorem facets_settle_twoTexts : twoTexts.Built ∧
    slots (twoTexts.applyAll facets).validators = ["type", "arity", "min_size", "unique"] ∧
    ¬(Facet.limit (.minLength 3)).Applies twoTexts ∧
    (twoTexts.applyAll (facets ++ [.limit (.minLength 3)])).validators =
      (twoTexts.applyAll facets).validators ∧
    runValidators "pair" (.list []) (twoTexts.applyAll facets).validators =
      .error ⟨"pair", .rule "Pair is empty", some (.arr [])⟩ ∧
    ∀ v, (twoTexts.applyAll fewer).Accepts v ↔ (twoTexts.applyAll facets).Accepts v := by
  have hmisapplied : ¬(Facet.limit (.minLength 3)).Applies twoTexts := Bool.false_ne_true
  have hfirst : (inForce (twoTexts.history facets)).find? (·.rule.violatedBy (.list [])) =
      some ⟨"arity", .custom "non_empty", "Pair is empty"⟩ := rfl
  obtain ⟨_, hslots, _, _, hnothing, hrun, hsame⟩ := facets_settle built_twoTexts facets
  exact ⟨built_twoTexts, hslots, hmisapplied, hnothing _ hmisapplied, (hrun _ _).2 _ hfirst,
    hsame twoTexts fewer built_twoTexts rfl lastIn?_fewer⟩

end Definition.Sample

end TypedArtifacts
