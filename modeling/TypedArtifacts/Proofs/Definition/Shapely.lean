import TypedArtifacts.Proofs.Artifact.Respect
import TypedArtifacts.Proofs.Artifact.Written
import TypedArtifacts.Proofs.Definition.Consistent
import TypedArtifacts.Proofs.Definition.Governed

namespace TypedArtifacts.Definition

variable {ρ : Type}

structure Shapely (d : Definition ρ) (v : Value ρ) : Prop where
  shape : d.kind.shape.fits v = true
  arity : ∀ items vs, d.kind = .tuple items → v = .list vs → vs.length ≤ items.length
  declared : ∀ keys es, d.kind = .composite keys → v = .dict es →
    ∀ e ∈ es, (keys.lookup e.1).isSome = true
  required : ∀ keys es, d.kind = .composite keys → v = .dict es →
    ∀ e ∈ keys, e.2.required = true → (es.lookup e.1).isSome = true

def ShapelyThroughout (d : Definition ρ) (v : Value ρ) : Prop :=
  ∀ p u, Governs p u d v → p.Shapely u

lemma Governs.within {p d : Definition ρ} {u v : Value ρ} (h : Governs p u d v) : p.Within d := by
  induction h with
  | whole => exact .self
  | item hq _ _ ih => exact .part (mem_parts_of_itemAt? hq) ih
  | entry hq _ _ ih => exact .part (mem_parts_of_valueAt? hq) ih

lemma Built.slot_shape {d : Definition ρ} (h : d.Built) :
    ∀ w ∈ d.validators, ∀ s, w.rule = .shape s → w.slot = "type" := by
  apply h.validators_induction
    (P := fun _ vs => ∀ w ∈ vs, ∀ s, w.rule = .shape s → w.slot = "type")
  · intro kind w hw s _
    obtain rfl := List.mem_singleton.1 hw
    rfl
  · intro items vs ih w hw s hr
    rcases Validator.mem_install hw with rfl | hw
    · cases hr
    · exact ih w hw s hr
  · intro kind v vs hv ih w hw s hr
    rcases Validator.mem_install hw with rfl | hw
    · cases hv <;> cases hr
    · exact ih w hw s hr

lemma Built.typed_iff {d : Definition ρ} (h : d.Built) : d.Typed ↔ d.ShapeKept := by
  constructor
  · rintro ⟨w, hw, hr⟩ u hu hs predicate hc
    have hslot : w.slot = u.slot := (h.slot_shape w hw _ hr).trans hs.symm
    obtain rfl := List.inj_on_of_nodup_map h.nodup hw hu hslot
    cases hr.symm.trans hc
  · intro hkept
    obtain ⟨w, hw, hs, hr | ⟨predicate, hr⟩⟩ := h.shaped
    · exact ⟨w, hw, hr⟩
    · exact absurd hr (hkept w hw hs predicate)

section

variable [Referent ρ] [Predicates ρ] {d q : Definition ρ} {v : Value ρ}

namespace Accepts

lemma parts {kind : Kind (Definition ρ)} (h : d.Accepts v) (hk : d.kind = kind) :
    AcceptsParts kind v :=
  hk ▸ (accepts_iff.1 h).2

lemma item {vs : List (Value ρ)} {i : ℕ} (h : d.Accepts (.list vs)) (hq : d.itemAt? i = some q)
    (hv : vs[i]? = some v) : q.Accepts v := by
  obtain ⟨t, kind⟩ := d
  cases kind with
  | list item =>
    obtain rfl := Option.some.inj hq
    exact acceptsParts_list.1 (h.parts rfl) v (List.mem_of_getElem? hv)
  | tuple items =>
    apply (acceptsParts_tuple.1 (h.parts rfl)).2 (q, v)
    exact List.mem_of_getElem? (List.getElem?_zip_eq_some.2 ⟨hq, hv⟩)
  | _ => cases hq

lemma entry {es : List (String × Value ρ)} {e : String × Value ρ} (h : d.Accepts (.dict es))
    (hes : Dict.Sorted es) (hq : d.valueAt? e.1 = some q) (he : e ∈ es) : q.Accepts e.2 := by
  obtain ⟨t, kind⟩ := d
  cases kind with
  | dict value =>
    obtain rfl := Option.some.inj hq
    exact acceptsParts_dict.1 (h.parts rfl) e he
  | composite keys =>
    obtain ⟨_, hkeys⟩ := acceptsParts_composite.1 (h.parts rfl)
    exact (hkeys (e.1, q) (Dict.mem_of_lookup hq)).2 e.2 (Dict.lookup_of_mem hes.nodup he)
  | _ => cases hq

lemma governed {p : Definition ρ} {u : Value ρ} (h : d.Accepts v) (hv : v.Ordered)
    (hg : Governs p u d v) : p.Accepts u := by
  refine (hg.descend (P := fun d v => v.Ordered ∧ d.Accepts v) ?_ ?_ ⟨hv, h⟩).2
  · rintro d q vs i v ⟨hv, h⟩ hq hi
    exact ⟨hv.child (List.mem_of_getElem? hi), h.item hq hi⟩
  · rintro d q es e ⟨hv, h⟩ hq he
    exact ⟨hv.child (Value.mem_children_dict he), h.entry (hv es .self) hq he⟩

lemma shapely (h : d.Accepts v) (hfits : d.kind.shape.fits v = true) : d.Shapely v where
  shape := hfits
  arity := by
    rintro items vs hk rfl
    exact (acceptsParts_tuple.1 (h.parts hk)).1
  declared := by
    rintro keys es hk rfl
    exact (acceptsParts_composite.1 (h.parts hk)).1
  required := by
    rintro keys es hk rfl e he hr
    by_contra hnone
    have hmissing := Option.not_isSome_iff_eq_none.1 hnone
    have hoptional := ((acceptsParts_composite.1 (h.parts hk)).2 e he).1 hmissing
    rw [hr] at hoptional
    cases hoptional

end Accepts

/-- An accepted value has the shape of its definition at every depth as soon as it does where the
rule of the shape is gone. -/
theorem shapely_throughout_iff (hv : v.Ordered) (h : d.Accepts v) :
    (d.ShapelyThroughout v ↔
      ∀ p u, Governs p u d v → ¬p.Typed → p.kind.shape.fits u = true) ∧
    (d.Built → ∀ p u, Governs p u d v → (p.Typed ↔ p.ShapeKept)) := by
  refine ⟨⟨fun hall p u hg _ => (hall p u hg).shape, fun hgone p u hg => ?_⟩, ?_⟩
  · have hu := h.governed hv hg
    by_cases hp : p.Typed
    · exact hu.shapely (fits_of_valid hp hu)
    · exact hu.shapely (hgone p u hg hp)
  · exact fun hd p u hg => (hd.within hg.within).typed_iff

end

namespace Sample

attribute [local instance] Predicates.parityAndSize

def untyped (predicate : String) : Definition Artifact :=
  (Definition.scalar .integer).apply (.validator "type" "Value is refused" predicate)

lemma built_untyped (predicate : String) : (untyped predicate).Built :=
  .facet _ trivial (.scalar .integer)

lemma not_typed_untyped (predicate : String) : ¬(untyped predicate).Typed := by
  rintro ⟨w, hw, hr⟩
  obtain rfl := List.mem_singleton.1 hw
  cases hr

def evens : Value Artifact :=
  .list [.integer 2, .integer 4]

lemma accepts_untyped {predicate : String} {v : Value Artifact}
    (h : Predicates.accepts predicate v = true) : (untyped predicate).Accepts v := by
  refine accepts_iff.2 ⟨fun w hw => ?_, fun _ => by cases v <;> rfl⟩
  obtain rfl := List.mem_singleton.1 hw
  simpa [Rule.violatedBy] using h

theorem shapely_throughout_evens : (Definition.list (untyped "even")).Accepts evens ∧
    evens.Ordered ∧ ¬(untyped "even").Typed ∧
    (Definition.list (untyped "even")).ShapelyThroughout evens := by
  have haccepts : (Definition.list (untyped "even")).Accepts evens := by
    refine accepts_iff.2 ⟨fun w hw => ?_, acceptsParts_list.2 fun v hv => accepts_untyped ?_⟩
    · obtain rfl := List.mem_singleton.1 hw
      rfl
    · rcases List.mem_pair.1 hv with rfl | rfl <;> decide
  have hordered : evens.Ordered := ordered_list fun v hv => by
    rcases List.mem_pair.1 hv with rfl | rfl <;> exact ordered_atom rfl nofun
  refine ⟨haccepts, hordered, not_typed_untyped _, ?_⟩
  refine (shapely_throughout_iff hordered haccepts).1.2 fun p u hg hp => ?_
  rcases hg with _ | ⟨hq, hi, hg⟩
  · rfl
  · obtain rfl := Option.some.inj hq
    rcases List.mem_pair.1 (List.mem_of_getElem? hi) with rfl | rfl <;> cases hg <;> rfl

theorem text_for_integer : ¬∀ (d : Definition Artifact) (v : Value Artifact), d.Built → v.Ordered →
    d.Accepts v → d.ShapelyThroughout v := by
  intro h
  have haccepts : (untyped "non_empty").Accepts (.string "x") := accepts_untyped (by decide)
  have hordered : (Value.string "x" : Value Artifact).Ordered := ordered_atom rfl nofun
  have hshapely := h _ _ (built_untyped _) hordered haccepts
  exact absurd (hshapely _ _ .whole).shape (by decide)

end Sample

end TypedArtifacts.Definition
