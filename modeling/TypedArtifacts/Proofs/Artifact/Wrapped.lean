import TypedArtifacts.Artifact.OfBag
import TypedArtifacts.Bag.OfArtifact
import TypedArtifacts.Proofs.Artifact.Settled
import TypedArtifacts.Proofs.Definition.Conforming

namespace TypedArtifacts

namespace Definition

def Wraps {α : Type} (wrap : α → Value Artifact) (d : Definition Artifact) (v : Value Artifact)
    (xs : List α) : Prop :=
  (d.kind.isList = true ∧ v = .list (xs.map wrap)) ∨
    (d.kind.isList = false ∧ ∃ x, xs = [x] ∧ v = wrap x)

lemma exists_eq_map {α : Type} {wrap : α → Value Artifact} {vs : List (Value Artifact)}
    (h : ∀ v ∈ vs, ∃ x, v = wrap x) : ∃ xs : List α, vs = xs.map wrap := by
  induction vs with
  | nil => exact ⟨[], rfl⟩
  | cons v vs ih =>
    obtain ⟨x, rfl⟩ := h v List.mem_cons_self
    obtain ⟨xs, rfl⟩ := ih fun u hu => h u (List.mem_cons_of_mem _ hu)
    exact ⟨x :: xs, rfl⟩

variable {d : Definition Artifact} {v : Value Artifact}

lemma kind_of_dependency (hd : d.role = .dependency) :
    d.kind = .relation ∨ ∃ t, d.kind = .list ⟨t, .relation⟩ := by
  obtain ⟨t, kind⟩ := d
  cases kind with
  | relation => exact Or.inl rfl
  | list item =>
    obtain ⟨u, kind⟩ := item
    cases kind with
    | relation => exact Or.inr ⟨u, rfl⟩
    | _ => cases hd
  | _ => cases hd

lemma kind_of_blob (hd : d.role = .blob) : d.kind = .blob ∨ ∃ t, d.kind = .list ⟨t, .blob⟩ := by
  obtain ⟨t, kind⟩ := d
  cases kind with
  | blob => exact Or.inl rfl
  | list item =>
    obtain ⟨u, kind⟩ := item
    cases kind with
    | blob => exact Or.inr ⟨u, rfl⟩
    | _ => cases hd
  | _ => cases hd

lemma wraps_of_kind {α : Type} {wrap : α → Value Artifact} {kind : Kind (Definition Artifact)}
    (hone : ∀ t w, Conforms ⟨t, kind⟩ w → ∃ x, w = wrap x) (hl : kind.isList = false)
    (hd : d.kind = kind ∨ ∃ t, d.kind = .list ⟨t, kind⟩) (h : d.Conforms v) :
    ∃ xs, d.Wraps wrap v xs := by
  obtain ⟨t, k⟩ := d
  rcases hd with hk | ⟨u, hk⟩
  · obtain rfl : k = kind := hk
    obtain ⟨x, rfl⟩ := hone t v h
    exact ⟨[x], Or.inr ⟨hl, x, rfl, rfl⟩⟩
  · obtain rfl : k = .list ⟨u, kind⟩ := hk
    cases h with
    | list hall =>
      obtain ⟨xs, rfl⟩ := exists_eq_map fun v hv => hone u v (hall v hv)
      exact ⟨xs, Or.inl ⟨rfl, rfl⟩⟩

lemma wraps_blobs (hd : d.role = .blob) (h : d.Conforms v) : ∃ bs, d.Wraps .blob v bs := by
  refine wraps_of_kind (fun t w hw => ?_) rfl (kind_of_blob hd) h
  cases hw with
  | blob b => exact ⟨b, rfl⟩

lemma wraps_targets (hd : d.role = .dependency) (h : d.Conforms v) :
    ∃ ts, d.Wraps .artifact v ts := by
  refine wraps_of_kind (fun t w hw => ?_) rfl (kind_of_dependency hd) h
  cases hw with
  | relation a => exact ⟨a, rfl⟩

lemma normalize_of_kind {kind : Kind (Definition Artifact)}
    (hone : ∀ t (w : Value Artifact), (⟨t, kind⟩ : Definition Artifact).normalize w = w)
    (hd : d.kind = kind ∨ ∃ t, d.kind = .list ⟨t, kind⟩) (v : Value Artifact) :
    d.normalize v = v := by
  obtain ⟨t, k⟩ := d
  rcases hd with hk | ⟨u, hk⟩
  · obtain rfl : k = kind := hk
    exact hone t v
  · obtain rfl : k = .list ⟨u, kind⟩ := hk
    cases v with
    | list vs =>
      rw [normalize, normalizeKind]
      congr 1
      exact (List.map_congr_left fun w _ => hone u w).trans (List.map_id' vs)
    | _ => simp [normalize, normalizeKind]

lemma normalize_dependency (hd : d.role = .dependency) (v : Value Artifact) : d.normalize v = v :=
  normalize_of_kind (fun t w => by simp [normalize, normalizeKind]) (kind_of_dependency hd) v

lemma normalize_blob (hd : d.role = .blob) (v : Value Artifact) : d.normalize v = v :=
  normalize_of_kind (fun t w => by simp [normalize, normalizeKind]) (kind_of_blob hd) v

end Definition

namespace Definition.Wraps

variable {α β : Type} {wrap : α → Value Artifact} {d : Definition Artifact} {v : Value Artifact}
  {xs : List α} {ts : List Artifact}

lemma collect_eq (h : d.Wraps wrap v xs) : Artifact.collect d (xs.map wrap) = some v := by
  rcases h with ⟨hl, rfl⟩ | ⟨hl, x, rfl, rfl⟩
  · simp [Artifact.collect, hl]
  · simp [Artifact.collect, hl]

lemma collect_some (h : d.Wraps wrap v xs) {ys : List α} (hl : ys.length = xs.length) :
    ∃ w, Artifact.collect d (ys.map wrap) = some w ∧ d.Wraps wrap w ys := by
  rcases h with ⟨hd, rfl⟩ | ⟨hd, x, rfl, rfl⟩
  · exact ⟨.list (ys.map wrap), by simp [Artifact.collect, hd], Or.inl ⟨hd, rfl⟩⟩
  · obtain ⟨y, rfl⟩ := List.length_eq_one_iff.1 hl
    exact ⟨wrap y, by simp [Artifact.collect, hd], Or.inr ⟨hd, y, rfl, rfl⟩⟩

lemma targets_eq (h : d.Wraps .artifact v ts) : Artifact.targets (some v) = ts := by
  rcases h with ⟨_, rfl⟩ | ⟨_, t, rfl, rfl⟩
  · rw [Artifact.targets, List.filterMap_map]
    exact List.filterMap_some
  · rfl

lemma itemsOf_eq (h : d.Wraps wrap v xs) (hw : ∀ x vs, wrap x ≠ .list vs)
    (select : Value Artifact → Option β) (g : α → β) (hs : ∀ x, select (wrap x) = some (g x)) :
    Bag.itemsOf select (some v) = some (xs.map g) := by
  rcases h with ⟨_, rfl⟩ | ⟨_, x, rfl, rfl⟩
  · have hf : (fun x => select (wrap x)) = fun x => some (g x) := funext hs
    rw [Bag.itemsOf, List.filterMap_map]
    simp [hf]
  · have hx := hs x
    unfold Bag.itemsOf
    split
    · rename_i vs hv
      exact absurd (Option.some.inj hv) (hw x vs)
    · rename_i w _ hv
      obtain rfl := Option.some.inj hv
      simp [hx]
    · rename_i hv
      cases hv

lemma refers (h : d.Wraps .artifact v ts) {t : Artifact} (ht : t ∈ ts) :
    v.Refers t := by
  rcases h with ⟨_, rfl⟩ | ⟨_, x, rfl, rfl⟩
  · exact Value.within_of_mem (List.mem_map_of_mem ht)
  · obtain rfl := List.mem_singleton.1 ht
    exact .self

lemma not_within (h : d.Wraps wrap v xs) (hc : ∀ x, (wrap x).children = []) {w : Value Artifact}
    (hw : ∀ x, wrap x ≠ w) (hl : ∀ vs, w ≠ .list vs) : ¬ w.Within v := by
  have hone : ∀ x, ¬ w.Within (wrap x) := by
    intro x hx
    generalize hu : wrap x = u at hx
    cases hx with
    | self => exact hw x hu
    | child hm _ =>
      rw [← hu, hc] at hm
      simp at hm
  intro hin
  rcases h with ⟨_, rfl⟩ | ⟨_, x, rfl, rfl⟩
  · generalize hu : Value.list (xs.map wrap) = u at hin
    cases hin with
    | self => exact hl _ hu.symm
    | child hm hin =>
      subst hu
      obtain ⟨x, _, rfl⟩ := List.mem_map.1 (show _ ∈ xs.map wrap from hm)
      exact hone x hin
  · exact hone x hin

end Definition.Wraps

end TypedArtifacts
