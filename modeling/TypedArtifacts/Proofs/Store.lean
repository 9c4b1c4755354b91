import TypedArtifacts.Proofs.Dict
import TypedArtifacts.Proofs.Outcome
import TypedArtifacts.Store

namespace TypedArtifacts

lemma Bag.expandAmong_leaf {bags fresh : List (String × Bag)} {b : Bag}
    (h : b.dependencies = []) : b.expandAmong bags fresh = .ok b := by
  rw [expandAmong, h, List.mapM_nil]
  obtain ⟨header, name, version, properties, blobs, dependencies⟩ := b
  obtain rfl : dependencies = [] := h
  rfl

lemma Bag.header_expandAmong {bags fresh : List (String × Bag)} {b c : Bag}
    (h : b.expandAmong bags fresh = .ok c) : c.toHeader = b.toHeader := by
  rw [expandAmong] at h
  obtain ⟨dependencies, _, h⟩ := Outcome.bind_eq_ok.1 h
  obtain rfl := Except.ok.inj h
  rfl

namespace Store

lemma fetch_leaf {s : Store} {id : String} {b : Bag} (h : s.find? id = some b)
    (hd : b.dependencies = []) : s.fetch id = .ok b := by
  rw [fetch, h]
  exact Bag.expandAmong_leaf hd

lemma get_eq_fetch (s : Store) (id : String) : s.get id = s.fetch id := by
  unfold get fetch
  cases s.find? id with
  | none => rfl
  | some b => rfl

lemma find?_put (b : Bag) (s : Store) (id : String) :
    (s.put b).find? id = if id = b.id then some b.collapsed else s.find? id := by
  by_cases h : id = b.id
  · rw [if_pos h, h, find?_put_self]
  · rw [if_neg h, find?_put_of_ne h]

lemma find?_put_eq_iff {b : Bag} {s : Store} :
    (∀ id, (s.put b).find? id = s.find? id) ↔ s.find? b.id = some b.collapsed := by
  constructor
  · intro h
    rw [← h, find?_put_self]
  · intro h id
    rw [find?_put]
    split
    · rename_i heq
      rw [heq, h]
    · rfl

def Keyed (s : Store) : Prop :=
  ∀ id b, s.find? id = some b → b.id = id

lemma Keyed.put {s : Store} (h : s.Keyed) (b : Bag) : (s.put b).Keyed := by
  intro id c hc
  rw [find?_put] at hc
  split at hc
  · rename_i hid
    obtain rfl := Option.some.inj hc
    exact hid.symm
  · exact h id c hc

end Store

end TypedArtifacts
