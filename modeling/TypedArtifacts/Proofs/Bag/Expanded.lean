import TypedArtifacts.Artifact.OfBag
import TypedArtifacts.Bag.OfArtifact
import TypedArtifacts.Proofs.Artifact.Settled

namespace TypedArtifacts.Artifact

mutual

def expanded : Artifact → Bag
  | ⟨header, type, fields⟩ =>
    { Bag.ofArtifact ⟨header, type, fields⟩ with dependencies := expandedFields fields }
  termination_by structural x => x

def expandedFields : List (String × Field Artifact) → List (String × List (DependencyEntry Bag))
  | [] => []
  | (name, f) :: fields =>
    if f.definition.role = .dependency then
      ((expandedField f).map fun entries => (name, entries)).toList ++ expandedFields fields
    else expandedFields fields
  termination_by structural x => x

def expandedField : Field Artifact → Option (List (DependencyEntry Bag))
  | ⟨_, some v, _⟩ => expandedTargets v
  | ⟨⟨⟨_, _, _, _, _, _, some v, _, _⟩, _⟩, none, _⟩ => expandedTargets v
  | ⟨⟨⟨_, _, _, _, _, _, none, _, _⟩, _⟩, none, _⟩ => none
  termination_by structural x => x

def expandedTargets : Value Artifact → Option (List (DependencyEntry Bag))
  | .list vs => some (expandedItems vs)
  | .artifact a => some [.expanded (expanded a)]
  | _ => none
  termination_by structural x => x

def expandedItems : List (Value Artifact) → List (DependencyEntry Bag)
  | [] => []
  | .artifact a :: vs => .expanded (expanded a) :: expandedItems vs
  | _ :: vs => expandedItems vs
  termination_by structural x => x

end

def expandedEntry (v : Value Artifact) : Option (DependencyEntry Bag) :=
  v.artifact?.map fun t => .expanded t.expanded

lemma expandedItems_eq (vs : List (Value Artifact)) :
    expandedItems vs = vs.filterMap expandedEntry := by
  induction vs with
  | nil => rfl
  | cons v vs ih =>
    rw [List.filterMap_cons, ← ih]
    cases v <;> simp [expandedItems, expandedEntry, Value.artifact?]

lemma expandedField_eq (f : Field Artifact) :
    expandedField f = Bag.itemsOf expandedEntry f.value? := by
  have hv : ∀ v, expandedTargets v = Bag.itemsOf expandedEntry (some v) := by
    intro v
    cases v <;> simp [expandedTargets, Bag.itemsOf, expandedItems_eq, expandedEntry, Value.artifact?]
  obtain ⟨⟨⟨n, label, text, r, m, q, default, ws, ms⟩, kind⟩, stored, assigned⟩ := f
  cases stored with
  | some v => exact hv v
  | none =>
    cases default with
    | some v => exact hv v
    | none => rfl

lemma expandedFields_eq (fields : List (String × Field Artifact)) :
    expandedFields fields =
      Bag.selected expandedEntry (fields.filter (·.2.definition.role = .dependency)) := by
  induction fields with
  | nil => rfl
  | cons e fields ih =>
    obtain ⟨name, f⟩ := e
    rw [expandedFields, ih, expandedField_eq]
    by_cases hr : f.definition.role = .dependency
    · cases hi : Bag.itemsOf expandedEntry f.value? <;> simp [hr, Bag.selected, hi]
    · simp [hr, Bag.selected]

theorem expanded_eq (a : Artifact) : a.expanded =
    { Bag.ofArtifact a with
      dependencies := Bag.selected expandedEntry (a.fieldsOf .dependency) } := by
  obtain ⟨header, type, fields⟩ := a
  rw [expanded, expandedFields_eq]
  rfl

lemma expanded_id (a : Artifact) : a.expanded.id = a.id := by
  rw [expanded_eq]
  rfl

lemma itemsOf_map {α β : Type} (select : Value Artifact → Option α) (g : α → β)
    (v : Option (Value Artifact)) :
    (Bag.itemsOf select v).map (·.map g) = Bag.itemsOf (fun v => (select v).map g) v := by
  cases v with
  | none => rfl
  | some v =>
    cases v with
    | list vs => simp [Bag.itemsOf, List.map_filterMap]
    | _ => simp [Bag.itemsOf, Option.map_map, Function.comp_def]

theorem collapsed_expanded (a : Artifact) : a.expanded.collapsed = Bag.ofArtifact a := by
  have hd : Dict.mapValues (·.map fun e => (.id (Bag.targetId e) : DependencyEntry Bag))
      (Bag.selected expandedEntry (a.fieldsOf .dependency)) = (Bag.ofArtifact a).dependencies := by
    simp only [Dict.mapValues, Bag.selected, Bag.ofArtifact, List.map_filterMap, Option.map_map]
    apply List.filterMap_congr
    intro e _
    have hid : (fun v => (expandedEntry v).map fun e => (.id (Bag.targetId e) : DependencyEntry Bag)) =
        fun v => v.artifact?.map fun t => .id t.id := by
      funext v
      simp [expandedEntry, Option.map_map, Function.comp_def, Bag.targetId, expanded_id]
    rw [← hid, ← itemsOf_map, Option.map_map]
    rfl
  rw [expanded_eq]
  unfold Bag.collapsed
  rw [hd]
  rfl

lemma collapsed_ofArtifact (a : Artifact) : (Bag.ofArtifact a).collapsed = Bag.ofArtifact a := by
  rw [← collapsed_expanded, Bag.collapsed_collapsed]

end TypedArtifacts.Artifact
