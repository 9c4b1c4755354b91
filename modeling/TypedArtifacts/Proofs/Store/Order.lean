import Mathlib.Tactic
import TypedArtifacts.Proofs.Version
import TypedArtifacts.Store.Query

namespace TypedArtifacts

open Std (OrientedCmp TransCmp)

def Bag.Versioned (b : Bag) : Prop :=
  Version.isValid b.version = true ∧ Version.isValid b.typeVersion = true

instance : OrientedCmp Instant.order :=
  inferInstanceAs (OrientedCmp (compareLex (compareOn Instant.seconds) (compareOn Instant.nanos)))

instance : TransCmp Instant.order :=
  inferInstanceAs (TransCmp (compareLex (compareOn Instant.seconds) (compareOn Instant.nanos)))

namespace SortKey

instance : OrientedCmp compareOptional where
  eq_swap {s t} := by
    cases s <;> cases t
    · rfl
    · rfl
    · rfl
    · exact @OrientedCmp.eq_swap _ Instant.order _ _ _

instance : TransCmp compareOptional where
  isLE_trans {s t u} hst htu := by
    cases s <;> cases t <;> cases u
    · rfl
    · exact htu
    · cases htu
    · rfl
    · cases hst
    · cases hst
    · cases htu
    · exact @TransCmp.isLE_trans _ Instant.order _ _ _ _ hst htu

instance : OrientedCmp compareVersions where
  eq_swap {a b} := by
    unfold compareVersions
    cases Version.parse? a <;> cases Version.parse? b
    · exact @OrientedCmp.eq_swap _ Ord.compare _ _ _
    · exact @OrientedCmp.eq_swap _ Ord.compare _ _ _
    · exact @OrientedCmp.eq_swap _ Ord.compare _ _ _
    · exact @OrientedCmp.eq_swap _ Version.precedence _ _ _

instance (key : SortKey) : OrientedCmp key.compare where
  eq_swap {a b} := by
    cases key
    case version | typeVersion => exact @OrientedCmp.eq_swap _ compareVersions _ _ _
    case createdAt | updatedAt => exact @OrientedCmp.eq_swap _ Instant.order _ _ _
    case publishedAt => exact @OrientedCmp.eq_swap _ compareOptional _ _ _
    all_goals exact @OrientedCmp.eq_swap _ (Ord.compare (α := String)) _ _ _

end SortKey

namespace Query

/-- The first key that tells two bags apart decides, and the id decides after all keys. -/
inductive Precedes (a b : Bag) : List (SortKey × Direction) → Prop where
  | byId : a.id < b.id → Precedes a b []
  | ascending {key rest} : key.compare a b = .lt → Precedes a b ((key, .ascending) :: rest)
  | descending {key rest} : key.compare b a = .lt → Precedes a b ((key, .descending) :: rest)
  | tie {key direction rest} : key.compare a b = .eq → Precedes a b rest →
      Precedes a b ((key, direction) :: rest)

lemma precedes_iff {a b : Bag} {order : List (SortKey × Direction)} :
    Precedes a b order ↔ compareBy a b order = .lt := by
  induction order with
  | nil =>
    rw [compareBy]
    constructor
    · rintro ⟨h⟩
      exact compareOfLessAndEq_eq_lt.2 h
    · intro h
      exact .byId (compareOfLessAndEq_eq_lt.1 h)
  | cons entry rest ih =>
    obtain ⟨key, direction⟩ := entry
    have hswap : key.compare a b = .eq ↔ key.compare b a = .eq :=
      @OrientedCmp.eq_comm _ key.compare _ _ _
    cases direction with
    | ascending =>
      rw [compareBy, Ordering.then_eq_lt, ← ih]
      constructor
      · intro h
        cases h with
        | ascending h => exact Or.inl h
        | tie h hrest => exact Or.inr ⟨h, hrest⟩
      · rintro (h | ⟨h, hrest⟩)
        · exact .ascending h
        · exact .tie h hrest
    | descending =>
      rw [compareBy, Ordering.then_eq_lt, ← ih, ← hswap]
      constructor
      · intro h
        cases h with
        | descending h => exact Or.inl h
        | tie h hrest => exact Or.inr ⟨h, hrest⟩
      · rintro (h | ⟨h, hrest⟩)
        · exact .descending h
        · exact .tie h hrest

lemma id_eq_of_compareBy {a b : Bag} {order : List (SortKey × Direction)}
    (h : compareBy a b order = .eq) : a.id = b.id := by
  induction order with
  | nil => exact Std.LawfulEqOrd.eq_of_compare h
  | cons entry rest ih =>
    obtain ⟨key, _ | _⟩ := entry
    · exact ih (Ordering.then_eq_eq.1 h).2
    · exact ih (Ordering.then_eq_eq.1 h).2

def arrange (order : List (SortKey × Direction)) (bags : List Bag) : List Bag :=
  bags.mergeSort fun a b => (compareBy a b order).isLE

lemma arrange_perm (order : List (SortKey × Direction)) (bags : List Bag) :
    (arrange order bags).Perm bags :=
  List.mergeSort_perm _ _

end Query

end TypedArtifacts
