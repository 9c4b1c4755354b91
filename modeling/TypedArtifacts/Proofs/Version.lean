import Mathlib.Tactic
import TypedArtifacts.Version

namespace TypedArtifacts

open Std (OrientedCmp TransCmp)

lemma transCmp_comap {α β : Type} (cmp : β → β → Ordering) [TransCmp cmp] (f : α → β) :
    TransCmp fun a b => cmp (f a) (f b) where
  eq_swap {_ _} := @OrientedCmp.eq_swap _ cmp _ _ _
  isLE_trans {_ _ _} := @TransCmp.isLE_trans _ cmp _ _ _ _

namespace Version

instance : OrientedCmp compareIdentifier where
  eq_swap {a b} := by
    unfold compareIdentifier
    cases word64? a.toList <;> cases word64? b.toList
    · exact @OrientedCmp.eq_swap _ compare _ _ _
    · rfl
    · rfl
    · exact @OrientedCmp.eq_swap _ compare _ _ _

instance : TransCmp compareIdentifier where
  isLE_trans {a b c} hab hbc := by
    unfold compareIdentifier at *
    cases ha : word64? a.toList <;> cases hb : word64? b.toList <;>
      cases hc : word64? c.toList <;> simp only [ha, hb, hc] at hab hbc ⊢
    · exact TransCmp.isLE_trans hab hbc
    · cases hbc
    · cases hab
    · cases hab
    · rfl
    · cases hbc
    · rfl
    · exact TransCmp.isLE_trans hab hbc

lemma compareIdentifiers_eq : compareIdentifiers = List.compareLex compareIdentifier := by
  funext as bs
  induction as generalizing bs with
  | nil => cases bs <;> rfl
  | cons a as ih =>
    cases bs with
    | nil => rfl
    | cons b bs =>
      rw [compareIdentifiers, ih, List.compareLex_cons_cons]

instance : TransCmp compareIdentifiers := by
  rw [compareIdentifiers_eq]
  infer_instance

instance : OrientedCmp comparePre where
  eq_swap {as bs} := by
    cases as <;> cases bs
    · rfl
    · rfl
    · rfl
    · exact @OrientedCmp.eq_swap _ compareIdentifiers _ _ _

instance : TransCmp comparePre where
  isLE_trans {as bs cs} hab hbc := by
    cases as <;> cases bs <;> cases cs
    · rfl
    · exact hbc
    · cases hab
    · cases hab
    · rfl
    · cases hbc
    · rfl
    · exact @TransCmp.isLE_trans _ compareIdentifiers _ _ _ _ hab hbc

instance : TransCmp precedence := by
  have heq : precedence = compareLex (compareLex (compareLex (compareOn major) (compareOn minor))
      (compareOn patch)) (fun v w => comparePre v.pre w.pre) := rfl
  have hpre := transCmp_comap comparePre pre
  rw [heq]
  infer_instance

def SameIdentifier (a b : String) : Prop :=
  a = b ∨ ∃ n, word64? a.toList = some n ∧ word64? b.toList = some n

structure SameRank (v w : Version) : Prop where
  major : v.major = w.major
  minor : v.minor = w.minor
  patch : v.patch = w.patch
  pre : List.Forall₂ SameIdentifier v.pre w.pre

lemma compareIdentifier_eq_eq {a b : String} :
    compareIdentifier a b = .eq ↔ SameIdentifier a b := by
  constructor
  · intro h
    unfold compareIdentifier at h
    split at h
    · rename_i m n hm hn
      obtain rfl := Nat.compare_eq_eq.1 h
      exact Or.inr ⟨m, hm, hn⟩
    · cases h
    · cases h
    · exact Or.inl (Std.compare_eq_iff_eq.1 h)
  · rintro (rfl | ⟨n, hm, hn⟩)
    · exact Std.ReflCmp.compare_self
    · simp [compareIdentifier, hm, hn]

lemma compareIdentifiers_eq_eq {as bs : List String} :
    compareIdentifiers as bs = .eq ↔ List.Forall₂ SameIdentifier as bs := by
  induction as generalizing bs with
  | nil => cases bs <;> simp [compareIdentifiers]
  | cons a as ih =>
    cases bs with
    | nil => simp [compareIdentifiers]
    | cons b bs =>
      rw [compareIdentifiers, Ordering.then_eq_eq, compareIdentifier_eq_eq, ih, List.forall₂_cons]

lemma comparePre_eq_eq {as bs : List String} :
    comparePre as bs = .eq ↔ List.Forall₂ SameIdentifier as bs := by
  rw [← compareIdentifiers_eq_eq]
  cases as <;> cases bs <;> simp [comparePre, compareIdentifiers]

lemma precedence_eq_eq {v w : Version} : precedence v w = .eq ↔ v.SameRank w := by
  simp only [precedence, Ordering.then_eq_eq, Nat.compare_eq_eq, comparePre_eq_eq]
  constructor
  · rintro ⟨⟨⟨hmajor, hminor⟩, hpatch⟩, hpre⟩
    exact ⟨hmajor, hminor, hpatch, hpre⟩
  · rintro ⟨hmajor, hminor, hpatch, hpre⟩
    exact ⟨⟨⟨hmajor, hminor⟩, hpatch⟩, hpre⟩

lemma precedence_total (v w : Version) :
    (precedence v w).isLE = true ∨ (precedence w v).isLE = true := by
  rw [@OrientedCmp.eq_swap _ precedence _ w v]
  cases precedence v w <;> simp

/-- Any two versions compare, in one way and its reverse the other way round; those of the same rank
compare alike with all others, and build data has no part in it. -/
theorem precedence_preorder (u v w : Version) :
    precedence v v = .eq ∧
    precedence w v = (precedence v w).swap ∧
    ((precedence v w).isLE = true ∨ (precedence w v).isLE = true) ∧
    ((precedence v w).isLE = true → (precedence w v).isLE = true → precedence v w = .eq) ∧
    ((precedence u v).isLE = true → (precedence v w).isLE = true →
      (precedence u w).isLE = true) ∧
    (∀ b c, precedence { v with build := b } { w with build := c } = precedence v w) ∧
    (precedence v w = .eq ↔ v.SameRank w) ∧
    (precedence v w = .eq →
      precedence v u = precedence w u ∧ precedence u v = precedence u w) := by
  have hantisymm := @OrientedCmp.isLE_antisymm _ precedence _ v w
  have htrans := @TransCmp.isLE_trans _ precedence _ u v w
  refine ⟨Std.ReflCmp.compare_self, OrientedCmp.eq_swap, precedence_total v w, hantisymm, htrans,
    fun b c => rfl, precedence_eq_eq, fun h => ⟨?_, ?_⟩⟩
  · exact TransCmp.congr_left h
  · exact TransCmp.congr_right h

example : (parse? "1.0.0-rc.07+a").bind (fun v => (parse? "1.0.0-rc.7").map (precedence v)) =
    some .eq := by cbv

end Version

end TypedArtifacts
