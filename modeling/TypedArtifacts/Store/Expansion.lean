import TypedArtifacts.Bag
import TypedArtifacts.Fault

/-!
Expansion of dependencies: every id is replaced by the bag stored under it, again expanded. A bag
that is already being expanded further up comes without its own dependencies.
-/

namespace TypedArtifacts

namespace Dict

theorem length_erase_lt {α : Type} {key : String} {d : List (String × α)} (h : contains key d) :
    (erase key d).length < d.length := by
  induction d with
  | nil => simp [contains] at h
  | cons entry rest ih =>
    obtain ⟨k, v⟩ := entry
    by_cases hk : k = key
    · have := List.length_filter_le (fun entry : String × α => entry.1 != key) rest
      simp only [erase, hk, List.filter_cons, bne_self_eq_false, Bool.false_eq_true, ↓reduceIte,
        List.length_cons]
      omega
    · have hb : (key == k) = false := by simpa using Ne.symm hk
      have h' : contains key rest := by simpa [contains, List.lookup_cons, hb] using h
      simpa [erase, hk] using ih h'

end Dict

namespace Bag

def withoutDependencies (b : Bag) : Bag :=
  { b with dependencies := [] }

/-- Expands a bag, where `fresh` are the stored bags that are not being expanded yet. -/
def expandAmong (bags : List (String × Bag)) (fresh : List (String × Bag)) (b : Bag) :
    Except StoreError Bag := do
  let dependencies ← b.dependencies.mapM fun (name, entries) => do
    let entries ← entries.mapM fun e =>
      match bags.lookup (targetId e) with
      | none => .error (.corrupt b.id (.missing (targetId e)))
      | some target =>
        if _h : Dict.contains (targetId e) fresh then
          (expandAmong bags (Dict.erase (targetId e) fresh) target).map .expanded
        else .ok (.expanded target.withoutDependencies)
    return (name, entries)
  return { b with dependencies := dependencies }
  termination_by fresh.length
  decreasing_by exact Dict.length_erase_lt ‹_›

def expand (bags : List (String × Bag)) (b : Bag) : Except StoreError Bag :=
  expandAmong bags (Dict.erase b.id bags) b

end Bag

end TypedArtifacts
