import TypedArtifacts.Proofs.Store.Order

/-! Bags that the order of a query puts in a circle. Without such bags the order is strict and
total, and there is one way to list bags. -/

namespace TypedArtifacts

open Std (OrientedCmp TransCmp)

lemma eq_of_cycle {α : Type} (cmp : α → α → Ordering) [TransCmp cmp] {a b c : α}
    (hab : (cmp a b).isLE) (hbc : (cmp b c).isLE) (hca : (cmp c a).isLE) :
    cmp a b = .eq ∧ cmp b c = .eq ∧ cmp c a = .eq :=
  ⟨OrientedCmp.isLE_antisymm hab (TransCmp.isLE_trans hbc hca),
    OrientedCmp.isLE_antisymm hbc (TransCmp.isLE_trans hca hab),
    OrientedCmp.isLE_antisymm hca (TransCmp.isLE_trans hab hbc)⟩

structure Version.Straddles (p q r : String) : Prop where
  first : isValid p = true
  between : isValid q = false
  last : isValid r = true
  below : p < q
  above : q < r

namespace SortKey

lemma compareVersions_text {p q : String}
    (h : Version.isValid p = false ∨ Version.isValid q = false) :
    compareVersions p q = Ord.compare p q := by
  unfold compareVersions
  cases hp : Version.parse? p with
  | none => rfl
  | some v =>
    cases hq : Version.parse? q with
    | none => rfl
    | some w => simp [Version.isValid, hp, hq] at h

lemma compareVersions_lt {p q : String}
    (h : Version.isValid p = false ∨ Version.isValid q = false) :
    compareVersions p q = .lt ↔ p < q := by
  rw [compareVersions_text h]
  exact compareOfLessAndEq_eq_lt

lemma lt_of_mixed {p q : String} (h : Version.isValid p ≠ Version.isValid q)
    (hle : (compareVersions p q).isLE) : p < q := by
  have hone : Version.isValid p = false ∨ Version.isValid q = false := by
    cases hp : Version.isValid p <;> cases hq : Version.isValid q <;> simp [hp, hq] at h ⊢
  rw [← compareVersions_lt hone]
  cases hc : compareVersions p q with
  | lt => rfl
  | eq =>
    rw [compareVersions_text hone] at hc
    exact absurd (congrArg Version.isValid (Std.LawfulEqOrd.eq_of_compare hc)) h
  | gt =>
    rw [hc] at hle
    cases hle

lemma versions_cycle {p q r : String} (hpq : (compareVersions p q).isLE)
    (hqr : (compareVersions q r).isLE) (hrp : (compareVersions r p).isLE) :
    (compareVersions p q = .eq ∧ compareVersions q r = .eq ∧ compareVersions r p = .eq) ∨
      Version.Straddles p q r ∨ Version.Straddles q r p ∨ Version.Straddles r p q := by
  -- Two texts that are no versions have all three pairs compared as texts.
  have htexts : ∀ {p q r : String}, Version.isValid p = false → Version.isValid q = false →
      (compareVersions p q).isLE → (compareVersions q r).isLE → (compareVersions r p).isLE →
      compareVersions p q = .eq ∧ compareVersions q r = .eq ∧ compareVersions r p = .eq := by
    intro p q r hp hq
    rw [compareVersions_text (Or.inl hp), compareVersions_text (Or.inl hq),
      compareVersions_text (Or.inr hp)]
    exact eq_of_cycle Ord.compare
  cases hp : Version.isValid p with
  | false =>
    cases hq : Version.isValid q with
    | false => exact Or.inl (htexts hp hq hpq hqr hrp)
    | true =>
      cases hr : Version.isValid r with
      | false =>
        obtain ⟨h1, h2, h3⟩ := htexts hr hp hrp hpq hqr
        exact Or.inl ⟨h2, h3, h1⟩
      | true =>
        exact Or.inr (Or.inr (Or.inr ⟨hr, hp, hq, lt_of_mixed (by simp [hp, hr]) hrp,
          lt_of_mixed (by simp [hp, hq]) hpq⟩))
  | true =>
    cases hq : Version.isValid q with
    | false =>
      cases hr : Version.isValid r with
      | false =>
        obtain ⟨h1, h2, h3⟩ := htexts hq hr hqr hrp hpq
        exact Or.inl ⟨h3, h1, h2⟩
      | true =>
        exact Or.inr (Or.inl ⟨hp, hq, hr, lt_of_mixed (by simp [hp, hq]) hpq,
          lt_of_mixed (by simp [hq, hr]) hqr⟩)
    | true =>
      cases hr : Version.isValid r with
      | false =>
        exact Or.inr (Or.inr (Or.inl ⟨hq, hr, hp, lt_of_mixed (by simp [hq, hr]) hqr,
          lt_of_mixed (by simp [hp, hr]) hrp⟩))
      | true =>
        obtain ⟨u, hu⟩ := Option.isSome_iff_exists.1 hp
        obtain ⟨v, hv⟩ := Option.isSome_iff_exists.1 hq
        obtain ⟨w, hw⟩ := Option.isSome_iff_exists.1 hr
        simp only [compareVersions, hu, hv, hw] at hpq hqr hrp ⊢
        exact Or.inl (eq_of_cycle Version.precedence hpq hqr hrp)

def versionText? : SortKey → Bag → Option String
  | version, b => some b.version
  | typeVersion, b => some b.typeVersion
  | _, _ => none

def Straddles (key : SortKey) (a b c : Bag) : Prop :=
  ∃ p q r, key.versionText? a = some p ∧ key.versionText? b = some q ∧
    key.versionText? c = some r ∧ Version.Straddles p q r

variable {key : SortKey} {a b c : Bag}

lemma compare_eq_versions {p q : String} (ha : key.versionText? a = some p)
    (hb : key.versionText? b = some q) : key.compare a b = compareVersions p q := by
  cases key <;> simp_all [versionText?, compare]

lemma Straddles.lt (h : key.Straddles a b c) : key.compare a b = .lt ∧ key.compare b c = .lt := by
  obtain ⟨p, q, r, ha, hb, hc, h⟩ := h
  rw [compare_eq_versions ha hb, compare_eq_versions hb hc]
  exact ⟨(compareVersions_lt (Or.inr h.between)).2 h.below,
    (compareVersions_lt (Or.inl h.between)).2 h.above⟩

lemma compare_cycle (hab : (key.compare a b).isLE) (hbc : (key.compare b c).isLE)
    (hca : (key.compare c a).isLE) :
    (key.compare a b = .eq ∧ key.compare b c = .eq ∧ key.compare c a = .eq) ∨
      key.Straddles a b c ∨ key.Straddles b c a ∨ key.Straddles c a b := by
  cases hkey : key.versionText? a with
  | none =>
    left
    cases key
    case version | typeVersion => simp [versionText?] at hkey
    case createdAt | updatedAt => exact eq_of_cycle Instant.order hab hbc hca
    case publishedAt => exact eq_of_cycle compareOptional hab hbc hca
    all_goals exact eq_of_cycle (Ord.compare (α := String)) hab hbc hca
  | some p =>
    obtain ⟨q, hb⟩ : ∃ q, key.versionText? b = some q := by
      cases key <;> simp [versionText?] at hkey ⊢
    obtain ⟨r, hc⟩ : ∃ r, key.versionText? c = some r := by
      cases key <;> simp [versionText?] at hkey ⊢
    rw [compare_eq_versions hkey hb] at hab ⊢
    rw [compare_eq_versions hb hc] at hbc ⊢
    rw [compare_eq_versions hc hkey] at hca ⊢
    rcases versions_cycle hab hbc hca with h | h | h | h
    · exact Or.inl h
    · exact Or.inr (Or.inl ⟨p, q, r, hkey, hb, hc, h⟩)
    · exact Or.inr (Or.inr (Or.inl ⟨q, r, p, hb, hc, hkey, h⟩))
    · exact Or.inr (Or.inr (Or.inr ⟨r, p, q, hc, hkey, hb, h⟩))

lemma compare_tie (hab : key.compare a b = .eq) (hbc : key.compare b c = .eq) :
    key.compare c a = .eq := by
  have hne : ∀ {a b c : Bag}, key.compare a b = .eq → key.compare b c = .eq →
      key.compare c a ≠ .lt := by
    intro a b c hab hbc hca
    have hle : (key.compare a b).isLE ∧ (key.compare b c).isLE ∧ (key.compare c a).isLE := by
      simp [hab, hbc, hca]
    rcases compare_cycle hle.1 hle.2.1 hle.2.2 with h | h | h | h
    · simp [h.2.2] at hca
    · simp [h.lt.1] at hab
    · simp [h.lt.1] at hbc
    · simp [h.lt.2] at hab
  cases hca : key.compare c a with
  | eq => rfl
  | lt => exact absurd hca (hne hab hbc)
  | gt =>
    have hba : key.compare b a = .eq := (@OrientedCmp.eq_comm _ key.compare _ _ _).1 hab
    have hcb : key.compare c b = .eq := (@OrientedCmp.eq_comm _ key.compare _ _ _).1 hbc
    exact absurd (@OrientedCmp.lt_of_gt _ key.compare _ _ _ hca) (hne hcb hba)

end SortKey

namespace Query

instance (order : List (SortKey × Direction)) : OrientedCmp fun a b => compareBy a b order := by
  induction order with
  | nil => exact inferInstanceAs (OrientedCmp (compareOn fun b : Bag => b.id))
  | cons entry rest ih =>
    obtain ⟨key, direction⟩ := entry
    cases direction with
    | ascending => exact inferInstanceAs (OrientedCmp (compareLex key.compare _))
    | descending =>
      have hflip : OrientedCmp fun a b => key.compare b a := OrientedCmp.opposite
      exact inferInstanceAs (OrientedCmp (compareLex (fun a b => key.compare b a) _))

/-- Bags that an order puts in a circle. Some key reads the text of `b` as a text, as it is no
version, and has it between those of `a` and `c`, which it reads as versions; but these it has the
other way round, or it leaves them to the keys after it, and those do. -/
inductive Turned (a b c : Bag) : List (SortKey × Direction) → Prop where
  | ascending {key rest} : key.Straddles a b c → Precedes c a ((key, .ascending) :: rest) →
      Turned a b c ((key, .ascending) :: rest)
  | descending {key rest} : key.Straddles c b a → Precedes c a ((key, .descending) :: rest) →
      Turned a b c ((key, .descending) :: rest)
  | tie {key direction rest} : key.compare a b = .eq → key.compare b c = .eq →
      Turned a b c rest → Turned a b c ((key, direction) :: rest)

variable {a b c : Bag} {order : List (SortKey × Direction)}

lemma Turned.cycle (h : Turned a b c order) :
    Precedes a b order ∧ Precedes b c order ∧ Precedes c a order := by
  induction h with
  | ascending h hca => exact ⟨.ascending h.lt.1, .ascending h.lt.2, hca⟩
  | descending h hca => exact ⟨.descending h.lt.2, .descending h.lt.1, hca⟩
  | tie hab hbc _ ih =>
    exact ⟨.tie hab ih.1, .tie hbc ih.2.1, .tie (SortKey.compare_tie hab hbc) ih.2.2⟩

section

variable {key : SortKey} {direction : Direction} {rest : List (SortKey × Direction)}

lemma Precedes.of_tie (h : Precedes a b ((key, direction) :: rest))
    (htie : key.compare a b = .eq) : Precedes a b rest := by
  cases h with
  | tie _ h => exact h
  | ascending h => simp [htie] at h
  | descending h => simp [(@OrientedCmp.eq_comm _ key.compare _ _ _).1 htie] at h

lemma Precedes.ascending_isLE (h : Precedes a b ((key, .ascending) :: rest)) :
    (key.compare a b).isLE := by
  cases h with
  | tie h _ => simp [h]
  | ascending h => simp [h]

lemma Precedes.descending_isLE (h : Precedes a b ((key, .descending) :: rest)) :
    (key.compare b a).isLE := by
  cases h with
  | tie h _ => simp [(@OrientedCmp.eq_comm _ key.compare _ _ _).1 h]
  | descending h => simp [h]

end

lemma turned_of_cycle (hab : Precedes a b order) (hbc : Precedes b c order)
    (hca : Precedes c a order) :
    Turned a b c order ∨ Turned b c a order ∨ Turned c a b order := by
  induction order with
  | nil =>
    cases hab with
    | byId hab =>
      cases hbc with
      | byId hbc =>
        cases hca with
        | byId hca => exact absurd (String.lt_trans (String.lt_trans hab hbc) hca) (String.lt_irrefl _)
  | cons entry rest ih =>
    obtain ⟨key, direction⟩ := entry
    have hties : key.compare a b = .eq → key.compare b c = .eq → key.compare c a = .eq →
        Turned a b c ((key, direction) :: rest) ∨ Turned b c a ((key, direction) :: rest) ∨
          Turned c a b ((key, direction) :: rest) := by
      intro h1 h2 h3
      rcases ih (hab.of_tie h1) (hbc.of_tie h2) (hca.of_tie h3) with h | h | h
      · exact Or.inl (.tie h1 h2 h)
      · exact Or.inr (Or.inl (.tie h2 h3 h))
      · exact Or.inr (Or.inr (.tie h3 h1 h))
    cases direction with
    | ascending =>
      rcases SortKey.compare_cycle hab.ascending_isLE hbc.ascending_isLE hca.ascending_isLE with
        ⟨h1, h2, h3⟩ | h | h | h
      · exact hties h1 h2 h3
      · exact Or.inl (.ascending h hca)
      · exact Or.inr (Or.inl (.ascending h hab))
      · exact Or.inr (Or.inr (.ascending h hbc))
    | descending =>
      have hflip : ∀ {x y : Bag}, key.compare x y = .eq → key.compare y x = .eq :=
        fun h => (@OrientedCmp.eq_comm _ key.compare _ _ _).1 h
      rcases SortKey.compare_cycle hca.descending_isLE hbc.descending_isLE hab.descending_isLE with
        ⟨h3, h2, h1⟩ | h | h | h
      · exact hties (hflip h1) (hflip h2) (hflip h3)
      · exact Or.inr (Or.inl (.descending h hab))
      · exact Or.inl (.descending h hca)
      · exact Or.inr (Or.inr (.descending h hbc))

lemma Precedes.asymm (h : Precedes a b order) : ¬Precedes b a order := by
  intro h'
  have hgt := @OrientedCmp.gt_of_lt _ (fun a b => compareBy a b order) _ _ _ (precedes_iff.1 h)
  exact absurd ((precedes_iff.1 h').symm.trans hgt) (by simp)

lemma Precedes.total (h : a.id ≠ b.id) : Precedes a b order ∨ Precedes b a order := by
  rw [precedes_iff, precedes_iff]
  cases hc : compareBy a b order with
  | lt => exact Or.inl rfl
  | eq => exact absurd (id_eq_of_compareBy hc) h
  | gt => exact Or.inr (@OrientedCmp.lt_of_gt _ (fun a b => compareBy a b order) _ _ _ hc)

/-- No three of some bags are put in a circle. -/
def Straight (order : List (SortKey × Direction)) (bags : List Bag) : Prop :=
  ∀ a ∈ bags, ∀ b ∈ bags, ∀ c ∈ bags, ¬Turned a b c order

variable {bags : List Bag}

lemma Straight.trans (h : Straight order bags) (ha : a ∈ bags) (hb : b ∈ bags) (hc : c ∈ bags)
    (hids : (bags.map (·.id)).Nodup) (hab : Precedes a b order) (hbc : Precedes b c order) :
    Precedes a c order := by
  by_cases hac : a.id = c.id
  · obtain rfl : a = c := List.inj_on_of_nodup_map hids ha hc hac
    exact absurd hbc hab.asymm
  · refine (Precedes.total hac).resolve_right fun hca => ?_
    rcases turned_of_cycle hab hbc hca with ht | ht | ht
    · exact h a ha b hb c hc ht
    · exact h b hb c hc a ha ht
    · exact h c hc a ha b hb ht

lemma straight_iff (hids : (bags.map (·.id)).Nodup) : Straight order bags ↔
    ∀ a ∈ bags, ∀ b ∈ bags, ∀ c ∈ bags, Precedes a b order → Precedes b c order →
      Precedes a c order := by
  constructor
  · exact fun h a ha b hb c hc hab hbc => h.trans ha hb hc hids hab hbc
  · intro h a ha b hb c hc ht
    obtain ⟨hab, hbc, hca⟩ := ht.cycle
    exact (h a ha b hb c hc hab hbc).asymm hca

lemma Straight.isLE_trans (h : Straight order bags) (hids : (bags.map (·.id)).Nodup)
    (ha : a ∈ bags) (hb : b ∈ bags) (hc : c ∈ bags) (hab : (compareBy a b order).isLE)
    (hbc : (compareBy b c order).isLE) : (compareBy a c order).isLE := by
  cases hx : compareBy a b order with
  | eq =>
    obtain rfl : a = b := List.inj_on_of_nodup_map hids ha hb (id_eq_of_compareBy hx)
    exact hbc
  | lt =>
    cases hy : compareBy b c order with
    | eq =>
      obtain rfl : b = c := List.inj_on_of_nodup_map hids hb hc (id_eq_of_compareBy hy)
      exact hab
    | lt =>
      have hac := h.trans ha hb hc hids (precedes_iff.2 hx) (precedes_iff.2 hy)
      simp [precedes_iff.1 hac]
    | gt => simp [hy] at hbc
  | gt => simp [hx] at hab

theorem Straight.pairwise_arrange (h : Straight order bags) (hids : (bags.map (·.id)).Nodup) :
    (arrange order bags).Pairwise (Precedes · · order) := by
  let cmp := fun x y : { b : Bag // b ∈ bags } => compareBy x.1 y.1 order
  have hbags : bags.attach.map (·.1) = bags := List.attach_map_subtype_val bags
  have htotal : ∀ x y, ((cmp x y).isLE || (cmp y x).isLE) = true := by
    intro x y
    have hswap : cmp x y = (cmp y x).swap :=
      @OrientedCmp.eq_swap _ (fun a b => compareBy a b order) _ x.1 y.1
    rw [hswap]
    cases cmp y x <;> rfl
  have htrans : ∀ x y z, (cmp x y).isLE → (cmp y z).isLE → (cmp x z).isLE :=
    fun x y z => h.isLE_trans hids x.2 y.2 z.2
  have hle := List.pairwise_mergeSort htrans htotal bags.attach
  have hmap : (bags.attach.mergeSort fun x y => (cmp x y).isLE).map (·.1) = arrange order bags := by
    rw [List.map_mergeSort (s := fun a b => (compareBy a b order).isLE) fun _ _ _ _ => rfl, hbags,
      arrange]
  have hne : (arrange order bags).Pairwise (·.id ≠ ·.id) :=
    List.pairwise_map.1 (((arrange_perm order bags).map _).nodup_iff.2 hids)
  rw [← hmap, List.pairwise_map] at hne ⊢
  refine (hle.and hne).imp fun {x y} ⟨hxy, hid⟩ => precedes_iff.2 ?_
  cases hc : cmp x y with
  | lt => exact hc
  | eq => exact absurd (id_eq_of_compareBy hc) hid
  | gt =>
    rw [hc] at hxy
    cases hxy

lemma eq_of_pairwise {as bs : List Bag} (has : as.Pairwise (Precedes · · order))
    (hbs : bs.Pairwise (Precedes · · order)) (h : as.Perm bs) : as = bs :=
  h.eq_of_pairwise (fun _ _ _ _ hab hba => absurd hba hab.asymm) has hbs

lemma Straight.arrange_eq {bags' : List Bag} (h : Straight order bags)
    (hids : (bags.map (·.id)).Nodup) (hperm : bags'.Perm bags) :
    arrange order bags' = arrange order bags := by
  have h' : Straight order bags' := fun a ha b hb c hc =>
    h a (hperm.mem_iff.1 ha) b (hperm.mem_iff.1 hb) c (hperm.mem_iff.1 hc)
  have hids' : (bags'.map (·.id)).Nodup := (hperm.map _).nodup_iff.2 hids
  refine eq_of_pairwise (h'.pairwise_arrange hids') (h.pairwise_arrange hids) ?_
  exact ((arrange_perm _ _).trans hperm).trans (arrange_perm _ _).symm

lemma Straight.sublist {bags' : List Bag} (h : Straight order bags) (hsub : bags' ⊆ bags) :
    Straight order bags' :=
  fun a ha b hb c hc => h a (hsub ha) b (hsub hb) c (hsub hc)

lemma not_straddles {key : SortKey} (hb : b.Versioned) : ¬key.Straddles a b c := by
  rintro ⟨p, q, r, _, hq, _, h⟩
  have hvalid : Version.isValid q = true := by
    cases key <;> simp only [SortKey.versionText?, Option.some.injEq, reduceCtorEq] at hq
    · exact hq ▸ hb.1
    · exact hq ▸ hb.2
  exact absurd (hvalid.symm.trans h.between) (by simp)

lemma straight_of_versioned (h : ∀ b ∈ bags, b.Versioned) : Straight order bags := by
  intro a _ b hb c _ ht
  induction ht with
  | ascending hs _ => exact not_straddles (h b hb) hs
  | descending hs _ => exact not_straddles (h b hb) hs
  | tie _ _ _ ih => exact ih

lemma pairwise_arrange (hv : ∀ b ∈ bags, b.Versioned) (hids : (bags.map (·.id)).Nodup) :
    (arrange order bags).Pairwise (Precedes · · order) :=
  (straight_of_versioned hv).pairwise_arrange hids

end Query

end TypedArtifacts
