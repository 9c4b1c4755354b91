import TypedArtifacts.Bag.Groups
import TypedArtifacts.Bag.Leaves
import TypedArtifacts.Proofs.Definition.Conforming

/-! The leaves of a property, apart from the key that they are written under. -/

namespace TypedArtifacts

variable {ρ : Type}

namespace Leaves

def under (key : String) (l : Leaves) : List (String × BagValue) :=
  l.own.toList.map (fun v => (key, v)) ++
    l.dotted.map fun e => (Definition.keyUnder key e.1, e.2)

def join (parts : List (String × Leaves)) : List (String × BagValue) :=
  parts.flatMap fun e => e.2.under e.1

def Tidy (l : Leaves) : Prop :=
  ∀ v, l.own = some v → v.type ≠ .dict → l.dotted = []

end Leaves

namespace Definition

section

variable [Referent ρ]

def ownMark : Option (List (String × Value ρ)) → Option BagValue
  | some [] => some .emptyDict
  | _ => none

def ownLeaf (d : Definition ρ) (v : Option (Value ρ)) (declared : Bool) : Option BagValue :=
  match d.storedType?, v with
  | some t, some v => some ⟨t, storedJson v d⟩
  | some t, none => if declared then some (.null t) else none
  | none, _ => none

mutual

def spread : Definition ρ → Option (Value ρ) → Bool → Leaves
  | ⟨_, .dict value⟩, v, _ =>
    let entries := v.bind (·.dict?)
    ⟨ownMark entries,
      Leaves.join ((entries.getD []).map fun e => (e.1, spread value (some e.2) false))⟩
  | ⟨_, .composite keys⟩, v, _ =>
    let entries := v.bind (·.dict?)
    ⟨ownMark entries, Leaves.join (spreadKeys keys (entries.getD []))⟩
  | d, v, declared => ⟨ownLeaf d v declared, []⟩

def spreadKeys : List (String × Definition ρ) → List (String × Value ρ) → List (String × Leaves)
  | [], _ => []
  | (name, d) :: rest, entries =>
    (name, spread d (entries.lookup name) true) :: spreadKeys rest entries

end

lemma spreadKeys_eq (keys : List (String × Definition ρ)) (entries : List (String × Value ρ)) :
    spreadKeys keys entries = keys.map fun e => (e.1, spread e.2 (entries.lookup e.1) true) := by
  induction keys with
  | nil => rfl
  | cons e keys ih => rw [spreadKeys, ih, List.map_cons]

lemma keyUnder_keyUnder (key name deeper : String) :
    keyUnder key (keyUnder name deeper) = keyUnder (keyUnder key name) deeper := by
  simp [keyUnder, String.append_assoc]

lemma under_keyUnder (key name : String) (l : Leaves) :
    l.under (keyUnder key name) = (l.under name).map fun e => (keyUnder key e.1, e.2) := by
  simp [Leaves.under, Function.comp_def, keyUnder_keyUnder]

omit [Referent ρ] in
lemma emptyMark_eq (key : String) (entries : Option (List (String × Value ρ))) :
    emptyMark key entries = (ownMark entries).toList.map fun v => (key, v) := by
  rcases entries with _ | _ | ⟨e, es⟩ <;> rfl

lemma leaf_eq (d : Definition ρ) (key : String) (v : Option (Value ρ)) (declared : Bool) :
    leaf d key v declared = (ownLeaf d v declared).toList.map fun v => (key, v) := by
  unfold leaf ownLeaf
  cases d.storedType? with
  | none => rfl
  | some t =>
    cases v with
    | some v => rfl
    | none => cases declared <;> rfl

theorem leaves_eq (d : Definition ρ) (key : String) (v : Option (Value ρ)) (declared : Bool) :
    leaves d key v declared = (spread d v declared).under key := by
  induction d using Definition.induction generalizing key v declared with
  | h d ih =>
    obtain ⟨t, kind⟩ := d
    cases kind with
    | dict value =>
      have hm : value ∈ (mk t (.dict value)).parts := List.mem_singleton_self _
      rw [leaves, spread, Leaves.under, emptyMark_eq]
      congr 1
      simp only [Leaves.join, List.flatMap_map, List.map_flatMap]
      apply List.flatMap_congr
      intro e _
      rw [ih value hm, under_keyUnder]
    | composite keys =>
      rw [leaves, spread, Leaves.under, emptyMark_eq]
      congr 1
      rw [spreadKeys_eq]
      generalize (v.bind (·.dict?)).getD [] = entries
      -- What is known of each key must not depend on the list of keys that is walked next.
      have hd : ∀ e ∈ keys, ∀ key v declared,
          leaves e.2 key v declared = (spread e.2 v declared).under key := by
        intro e he
        exact ih e.2 (List.mem_map_of_mem he)
      clear ih
      induction keys with
      | nil => simp [declaredLeaves, Leaves.join]
      | cons e keys ih =>
        rw [declaredLeaves, ih fun e he => hd e (List.mem_cons_of_mem _ he),
          hd e List.mem_cons_self, under_keyUnder]
        simp [Leaves.join]
    | _ =>
      rw [leaves, spread, leaf_eq, Leaves.under]
      · simp
      all_goals simp

lemma spread_tidy (d : Definition ρ) (v : Option (Value ρ)) (declared : Bool) :
    (spread d v declared).Tidy := by
  have hmark : ∀ entries : Option (List (String × Value ρ)), ∀ w, ownMark entries = some w →
      w.type = .dict := by
    rintro (_ | _ | ⟨e, es⟩) w hw
    · cases hw
    · cases hw
      rfl
    · cases hw
  obtain ⟨t, kind⟩ := d
  cases kind with
  | dict value =>
    rw [spread]
    exact fun w hw ht => absurd (hmark _ w hw) ht
  | composite keys =>
    rw [spread]
    exact fun w hw ht => absurd (hmark _ w hw) ht
  | _ =>
    rw [spread]
    · exact fun _ _ _ => rfl
    all_goals simp

end

end Definition

end TypedArtifacts
