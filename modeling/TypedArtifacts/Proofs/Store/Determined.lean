import TypedArtifacts.Proofs.Store.Paging

namespace TypedArtifacts

open Query

namespace Store

variable {s : Store}

/-- The order of a query tells any two stored bags apart in one way only. It is an order just if it
puts no three of them in a circle, and then a listing follows it and depends on the stored bags
only. -/
theorem list_determined (hs : s.Keyed) (hn : (Dict.keys s.bags).Nodup)
    (order : List (SortKey × Direction)) :
    (∀ a ∈ Dict.values s.bags, ∀ b ∈ Dict.values s.bags, a ≠ b →
      (Precedes a b order ↔ ¬Precedes b a order)) ∧
    ((∀ a ∈ Dict.values s.bags, ∀ b ∈ Dict.values s.bags, ∀ c ∈ Dict.values s.bags,
      Precedes a b order → Precedes b c order → Precedes a c order) ↔
      Straight order (Dict.values s.bags)) ∧
    (Straight order (Dict.values s.bags) → ∀ (q : Query) keys all, q.sortKeys? = .ok keys →
      orderOf q.directions keys = order →
      s.list { q with marker := none, limit := none } = .ok all →
      (∃ listed, (∀ b, b ∈ listed ↔ (∃ id, s.find? id = some b) ∧ q.Selects b) ∧
        listed.Pairwise (Precedes · · order) ∧
        List.Forall₂ (fun b x => b.expand s.bags = .ok x) listed all) ∧
      ∀ s' : Store, s'.bags.Perm s.bags → ∀ marker limit,
        s'.list { q with marker := marker, limit := limit } =
          s.list { q with marker := marker, limit := limit }) := by
  have hids : ((Dict.values s.bags).map (·.id)).Nodup := by
    rw [ids_values hs hn]
    exact hn
  refine ⟨fun a ha b hb hne => ?_, (straight_iff hids).symm, ?_⟩
  · have hid : a.id ≠ b.id := fun h => hne (List.inj_on_of_nodup_map hids ha hb h)
    exact ⟨fun h => h.asymm, fun h => (Precedes.total hid).resolve_right h⟩
  · rintro hstraight q keys all hkeys rfl hall
    obtain ⟨bags, hpage, _⟩ := Outcome.bind_eq_ok.1 hall
    obtain ⟨keys', hkeys', hpage⟩ := Outcome.bind_eq_ok.1 (Outcome.mapError_eq_ok.1 hpage)
    obtain ⟨selected, hselected, _⟩ := Outcome.bind_eq_ok.1 hpage
    rw [select_page] at hselected
    have hsub : selected ⊆ Dict.values s.bags := by
      obtain ⟨_, rfl⟩ := select_eq_ok.1 hselected
      exact List.filter_sublist.subset
    have hpart := hstraight.sublist hsub
    refine ⟨⟨arrange (orderOf q.directions keys) selected, fun b => ?_,
      hpart.pairwise_arrange (nodup_selected hs hn hselected), ?_⟩, fun s' hperm => ?_⟩
    · exact (arrange_perm _ _).mem_iff.trans (mem_selected hn hselected)
    · rw [list_eq_of_select hkeys hselected] at hall
      exact Outcome.mapM_eq_ok.1 hall
    · exact list_perm_of_straight hs hn hkeys hselected hpart hperm

namespace Sample

def drafted : Store :=
  [edition "a" "1.9.0" [], edition "b" "1.10.0" [], edition "c" "draft" []].foldl
    (fun s b => s.put b) {}

lemma mem_drafted {b : Bag} (h : b ∈ Dict.values drafted.bags) : b = edition "a" "1.9.0" [] ∨
    b = edition "b" "1.10.0" [] ∨ b = edition "c" "draft" [] := by
  have hm : b ∈ [edition "a" "1.9.0" [], edition "b" "1.10.0" [], edition "c" "draft" []] := h
  simpa using hm

lemma straight_drafted :
    Straight [(.version, .ascending)] (Dict.values drafted.bags) := by
  intro a _ b hb c hc ht
  cases ht with
  | ascending h _ =>
    obtain ⟨p, q, r, _, hq, hr, h⟩ := h
    obtain rfl : b.version = q := Option.some.inj hq
    obtain rfl : c.version = r := Option.some.inj hr
    have hfirst : Version.isValid "1.9.0" = true := by decide +kernel
    have hsecond : Version.isValid "1.10.0" = true := by decide +kernel
    have hthird : Version.isValid "draft" = false := by decide +kernel
    have hbetween := h.between
    have habove := h.above
    have hlast := h.last
    rcases mem_drafted hb with rfl | rfl | rfl
    · exact absurd (hfirst.symm.trans hbetween) (by decide)
    · exact absurd (hsecond.symm.trans hbetween) (by decide)
    · rcases mem_drafted hc with rfl | rfl | rfl
      · exact absurd habove (by decide)
      · exact absurd habove (by decide)
      · exact absurd (hthird.symm.trans hlast) (by decide)
  | tie _ _ h => cases h

theorem list_determined_drafted : drafted.Keyed ∧ (Dict.keys drafted.bags).Nodup ∧
    ∀ a ∈ Dict.values drafted.bags, ∀ b ∈ Dict.values drafted.bags,
      ∀ c ∈ Dict.values drafted.bags, Precedes a b [(.version, .ascending)] →
        Precedes b c [(.version, .ascending)] → Precedes a c [(.version, .ascending)] := by
  have hkeyed : drafted.Keyed := by
    intro id b h
    have hm : (id, b) ∈ [("a", edition "a" "1.9.0" []), ("b", edition "b" "1.10.0" []),
      ("c", edition "c" "draft" [])] := Dict.mem_of_lookup h
    fin_cases hm <;> rfl
  have hkeys : (Dict.keys drafted.bags).Nodup := by decide
  exact ⟨hkeyed, hkeys, (list_determined hkeyed hkeys _).2.1.2 straight_drafted⟩

/-- Precedence has 1.9.0 before 1.10.0, and the texts have 1.10.0 before 1.1x, which is no version,
and that before 1.9.0. -/
theorem versions_in_circle : ¬∀ (order : List (SortKey × Direction)) (a b c : Bag), a.id ≠ b.id →
    b.id ≠ c.id → a.id ≠ c.id → Precedes a b order → Precedes b c order → Precedes a c order := by
  intro h
  have hac := h [(.version, .ascending)] (edition "a" "1.9.0" []) (edition "b" "1.10.0" [])
    (edition "c" "1.1x" []) (by decide) (by decide) (by decide)
    (.ascending (by decide +kernel)) (.ascending (by decide +kernel))
  have hca : Precedes (edition "c" "1.1x" []) (edition "a" "1.9.0" []) [(.version, .ascending)] :=
    .ascending (by decide +kernel)
  exact hac.asymm hca

end Sample

end Store

end TypedArtifacts
