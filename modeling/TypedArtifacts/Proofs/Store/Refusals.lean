import TypedArtifacts.Proofs.Store.Paging

/-! Queries that are refused. Sort keys are looked at before anything else, filters only with a bag
at hand. Main statement: a query is refused exactly if it sorts by an unknown key, some stored bag
meets all filters before an unknown one, or its marker is none of the bags it asks for. -/

namespace TypedArtifacts

namespace SortKey

def names : List String :=
  ["id", "name", "version", "type_name", "type_version", "state", "created_at", "updated_at",
    "published_at"]

lemma ofName?_eq_none {name : String} : ofName? name = none ↔ name ∉ names := by
  unfold ofName?
  split
  all_goals simp_all [names]

end SortKey

namespace Bag

variable {b : Bag} {filters : List (String × String)} {field x : String}

def filterNames : List String :=
  ["id", "name", "version", "type_name", "type_version", "visibility", "state", "owner", "tags"]

lemma meets?_eq_none : b.meets? field x = none ↔ field ∉ filterNames := by
  unfold meets?
  split
  all_goals simp_all [filterNames]

inductive Stalls (b : Bag) : List (String × String) → String → Prop
  | here {field x rest} : field ∉ filterNames → Stalls b ((field, x) :: rest) field
  | later {field x rest unknown} : b.meets? field x = some true → Stalls b rest unknown →
      Stalls b ((field, x) :: rest) unknown

lemma Stalls.unknown (h : b.Stalls filters field) :
    field ∈ Dict.keys filters ∧ field ∉ filterNames := by
  induction h with
  | here hf => exact ⟨List.mem_cons_self, hf⟩
  | later _ _ ih => exact ⟨List.mem_cons_of_mem _ ih.1, ih.2⟩

lemma stalls_cons {rest : List (String × String)} {unknown : String} :
    b.Stalls ((field, x) :: rest) unknown ↔
      b.meets? field x = none ∧ field = unknown ∨
        b.meets? field x = some true ∧ b.Stalls rest unknown := by
  constructor
  · intro h
    cases h with
    | here hf => exact Or.inl ⟨meets?_eq_none.2 hf, rfl⟩
    | later hm h => exact Or.inr ⟨hm, h⟩
  · rintro (⟨hm, rfl⟩ | ⟨hm, h⟩)
    · exact .here (meets?_eq_none.1 hm)
    · exact .later hm h

lemma meetsAll_eq_error {e : QueryError} :
    b.meetsAll filters = .error e ↔ ∃ field, e = .filter field ∧ b.Stalls filters field := by
  induction filters with
  | nil =>
    refine iff_of_false (fun h => by cases h) ?_
    rintro ⟨field, _, h⟩
    cases h
  | cons entry rest ih =>
    obtain ⟨field, x⟩ := entry
    simp only [meetsAll, stalls_cons]
    cases hm : b.meets? field x with
    | none => simp [eq_comm]
    | some met =>
      cases met with
      | false => simp
      | true => simpa using ih

end Bag

namespace Query

variable {q : Query} {bags : List Bag} {e : QueryError}

inductive Faulty (q : Query) (bags : List Bag) : QueryError → Prop
  | sortKey {name} : name ∈ q.sortKeys → name ∉ SortKey.names → Faulty q bags (.sortKey name)
  | filter {b field} : b ∈ bags → q.considers b = true → b.Stalls q.filters field →
      Faulty q bags (.filter field)
  | marker {id} : q.marker = some id → (∀ b ∈ bags, q.Selects b → b.id ≠ id) →
      Faulty q bags (.marker id)

lemma sortKeys?_error (h : q.sortKeys? = .error e) : q.Faulty bags e := by
  obtain ⟨name, hm, hname⟩ := Outcome.mapM_error h
  cases hk : SortKey.ofName? name with
  | some key => simp [hk] at hname
  | none =>
    simp only [hk] at hname
    obtain rfl := Except.error.inj hname
    exact .sortKey hm (SortKey.ofName?_eq_none.1 hk)

lemma known_of_sortKeys? {keys : List SortKey} (h : q.sortKeys? = .ok keys) :
    ∀ name ∈ q.sortKeys, name ∈ SortKey.names := by
  intro name hm
  obtain ⟨key, hkey⟩ := Outcome.exists_mapM_ok.1 ⟨keys, h⟩ name hm
  by_contra hn
  simp [SortKey.ofName?_eq_none.2 hn] at hkey

lemma select_error (h : q.select bags = .error e) :
    ∃ b ∈ bags, q.considers b = true ∧ b.meetsAll q.filters = .error e := by
  induction bags with
  | nil => cases h
  | cons b bags ih =>
    have hrest : q.select bags = .error e →
        ∃ b' ∈ b :: bags, q.considers b' = true ∧ b'.meetsAll q.filters = .error e := by
      intro h
      obtain ⟨b', hb', h⟩ := ih h
      exact ⟨b', List.mem_cons_of_mem _ hb', h⟩
    rw [select] at h
    cases hc : q.considers b with
    | false =>
      simp only [hc, Bool.not_false, if_true] at h
      exact hrest h
    | true =>
      simp only [hc, Bool.not_true, Bool.false_eq_true, if_false] at h
      rcases Outcome.bind_eq_error.1 h with hm | ⟨keep, _, h⟩
      · exact ⟨b, List.mem_cons_self, hc, hm⟩
      · rcases Outcome.bind_eq_error.1 h with hs | ⟨_, _, h⟩
        · exact hrest hs
        · cases h

lemma afterMarker_eq_error {marker : Option String} :
    afterMarker marker bags = .error e ↔
      ∃ id, marker = some id ∧ e = .marker id ∧ ∀ b ∈ bags, b.id ≠ id := by
  cases marker with
  | none =>
    refine iff_of_false (fun h => by cases h) ?_
    rintro ⟨_, h, _⟩
    cases h
  | some id =>
    have hnone : bags.findIdx? (·.id = id) = none ↔ ∀ b ∈ bags, b.id ≠ id := by
      simp [List.findIdx?_eq_none_iff]
    simp only [afterMarker, Option.some.injEq]
    cases hf : bags.findIdx? (·.id = id) with
    | none =>
      have hall := hnone.1 hf
      constructor
      · intro h
        exact ⟨id, rfl, (Except.error.inj h).symm, hall⟩
      · rintro ⟨_, rfl, rfl, _⟩
        rfl
    | some i =>
      refine iff_of_false (fun h => by cases h) ?_
      rintro ⟨_, rfl, _, hall⟩
      rw [hnone.2 hall] at hf
      cases hf

lemma mem_arranged {selected : List Bag} (hs : q.select bags = .ok selected)
    (order : List (SortKey × Direction)) {b : Bag} :
    b ∈ selected.mergeSort (fun a b => (compareBy a b order).isLE) ↔ b ∈ bags ∧ q.Selects b := by
  obtain ⟨_, rfl⟩ := select_eq_ok.1 hs
  rw [(List.mergeSort_perm _ _).mem_iff, List.mem_filter, keeps_iff]

lemma faulty_of_page (h : q.page bags = .error e) : q.Faulty bags e := by
  rcases Outcome.bind_eq_error.1 h with hk | ⟨keys, _, h⟩
  · exact sortKeys?_error hk
  rcases Outcome.bind_eq_error.1 h with hs | ⟨selected, hs, h⟩
  · obtain ⟨b, hb, hc, hm⟩ := select_error hs
    obtain ⟨field, rfl, hstall⟩ := Bag.meetsAll_eq_error.1 hm
    exact .filter hb hc hstall
  rcases Outcome.bind_eq_error.1 h with ha | ⟨_, _, h⟩
  · obtain ⟨id, hid, rfl, hnone⟩ := afterMarker_eq_error.1 ha
    exact .marker hid fun b hb hsel => hnone b ((mem_arranged hs _).2 ⟨hb, hsel⟩)
  · cases h

lemma page_of_faulty (h : q.Faulty bags e) : ∃ e', q.page bags = .error e' := by
  cases hp : q.page bags with
  | error e' => exact ⟨e', rfl⟩
  | ok listed =>
    exfalso
    obtain ⟨keys, hk, hp⟩ := Outcome.bind_eq_ok.1 hp
    obtain ⟨selected, hs, hp⟩ := Outcome.bind_eq_ok.1 hp
    obtain ⟨rest, ha, _⟩ := Outcome.bind_eq_ok.1 hp
    cases h with
    | sortKey hm hn => exact hn (known_of_sortKeys? hk _ hm)
    | filter hb hc hstall =>
      obtain ⟨keep, hkeep⟩ := (select_eq_ok.1 hs).1 _ hb hc
      have herror := Bag.meetsAll_eq_error.2 ⟨_, rfl, hstall⟩
      cases herror.symm.trans hkeep
    | marker hid hnone =>
      have herror := afterMarker_eq_error.2 ⟨_, hid, rfl, fun b hb =>
        hnone b ((mem_arranged hs (orderOf q.directions keys)).1 hb).1
          ((mem_arranged hs _).1 hb).2⟩
      cases herror.symm.trans ha

structure Known (q : Query) : Prop where
  sortKeys : ∀ name ∈ q.sortKeys, name ∈ SortKey.names
  filters : ∀ field ∈ Dict.keys q.filters, field ∈ Bag.filterNames

lemma Known.faulty_iff (h : q.Known) :
    (∃ e, q.Faulty bags e) ↔
      ∃ id, q.marker = some id ∧ ∀ b ∈ bags, q.Selects b → b.id ≠ id := by
  constructor
  · rintro ⟨e, hfaulty⟩
    cases hfaulty with
    | sortKey hm hn => exact absurd (h.sortKeys _ hm) hn
    | filter _ _ hstall => exact absurd (h.filters _ hstall.unknown.1) hstall.unknown.2
    | marker hid hnone => exact ⟨_, hid, hnone⟩
  · rintro ⟨id, hid, hnone⟩
    exact ⟨_, .marker hid hnone⟩

lemma not_selects {b : Bag} {field : String} (hm : field ∈ Dict.keys q.filters)
    (hf : field ∉ Bag.filterNames) : ¬q.Selects b := by
  rintro ⟨_, hall⟩
  obtain ⟨⟨field, x⟩, he, rfl⟩ := List.mem_map.1 hm
  cases (Bag.meets?_eq_none.2 hf).symm.trans (hall _ he)

lemma always_faulty_iff (h : ¬q.Known) :
    (∀ bags, ∃ e, q.Faulty bags e) ↔
      (∃ name ∈ q.sortKeys, name ∉ SortKey.names) ∨ q.marker.isSome := by
  constructor
  · intro hall
    obtain ⟨e, hfaulty⟩ := hall []
    cases hfaulty with
    | sortKey hm hn => exact Or.inl ⟨_, hm, hn⟩
    | filter hb => cases hb
    | marker hid => exact Or.inr (by rw [hid]; rfl)
  · rintro (⟨name, hm, hn⟩ | hmarker) bags
    · exact ⟨_, .sortKey hm hn⟩
    · obtain ⟨id, hid⟩ := Option.isSome_iff_exists.1 hmarker
      by_cases hkeys : ∀ name ∈ q.sortKeys, name ∈ SortKey.names
      · have hfield : ∃ field ∈ Dict.keys q.filters, field ∉ Bag.filterNames := by
          by_contra hnone
          push Not at hnone
          exact h ⟨hkeys, hnone⟩
        obtain ⟨field, hm, hf⟩ := hfield
        exact ⟨_, .marker hid fun b _ hsel => absurd hsel (not_selects hm hf)⟩
      · push Not at hkeys
        obtain ⟨name, hm, hn⟩ := hkeys
        exact ⟨_, .sortKey hm hn⟩

end Query

namespace Store

variable {s : Store} {q : Query} {e : QueryError}

def Refuses (s : Store) (q : Query) : Prop :=
  ∃ e, s.list q = .error (.invalidQuery e)

lemma list_eq_invalidQuery :
    s.list q = .error (.invalidQuery e) ↔ q.page (Dict.values s.bags) = .error e := by
  rw [list]
  cases hp : q.page (Dict.values s.bags) with
  | error fault => simp [Except.mapError]
  | ok listed =>
    refine iff_of_false (fun h => ?_) fun h => by cases h
    obtain ⟨b, _, hb⟩ := Outcome.mapM_error (f := fun b : Bag => b.expand s.bags) h
    obtain ⟨_, _, hcorrupt, _⟩ := Bag.missing_of_error hb
    cases hcorrupt

lemma refuses_iff : s.Refuses q ↔ ∃ e, q.Faulty (Dict.values s.bags) e := by
  constructor
  · rintro ⟨e, h⟩
    exact ⟨e, Query.faulty_of_page (list_eq_invalidQuery.1 h)⟩
  · rintro ⟨e, h⟩
    obtain ⟨e', h'⟩ := Query.page_of_faulty h
    exact ⟨e', list_eq_invalidQuery.2 h'⟩

/-- A query is refused exactly if there is something to refuse it for. If it names nothing unknown
that is a marker that is not among the bags asked for; else it is refused by every store exactly if
it sorts by an unknown key or has a marker, and otherwise an unknown filter has to be reached. -/
theorem refusal (s : Store) (q : Query) :
    (∀ e, s.list q = .error (.invalidQuery e) → q.Faulty (Dict.values s.bags) e) ∧
    (s.Refuses q ↔ ∃ e, q.Faulty (Dict.values s.bags) e) ∧
    (q.Known → (s.Refuses q ↔
      ∃ id, q.marker = some id ∧ ∀ b ∈ Dict.values s.bags, q.Selects b → b.id ≠ id)) ∧
    (¬q.Known → ((∀ s' : Store, s'.Refuses q) ↔
      (∃ name ∈ q.sortKeys, name ∉ SortKey.names) ∨ q.marker.isSome)) := by
  refine ⟨fun e h => Query.faulty_of_page (list_eq_invalidQuery.1 h), refuses_iff,
    fun h => refuses_iff.trans h.faulty_iff, fun h => ?_⟩
  rw [← Query.always_faulty_iff h]
  constructor
  · intro hall bags
    -- any list of bags is that of some store
    have hbags : Dict.values (bags.map fun b => (b.id, b)) = bags := by
      simp [Dict.values, Function.comp_def]
    rw [← hbags]
    exact refuses_iff.1 (hall ⟨_⟩)
  · exact fun hall s' => refuses_iff.2 (hall _)

namespace Sample

def beyond : Query :=
  { byVersion with marker := some "e" }

def coloured : Query where
  filters := [("colour", "red")]

def zoned : Query where
  filters := [("name", "x"), ("zone", "y")]

lemma known_beyond : beyond.Known :=
  ⟨by decide, by decide⟩

lemma not_known_coloured : ¬coloured.Known := fun h =>
  absurd (h.filters "colour" List.mem_cons_self) (by decide)

lemma not_known_zoned : ¬zoned.Known := fun h =>
  absurd (h.filters "zone" (List.mem_cons_of_mem _ List.mem_cons_self)) (by decide)

theorem refusal_editions : beyond.Known ∧ editions.Refuses beyond ∧ ¬coloured.Known ∧
    editions.Refuses coloured ∧ ¬∀ s : Store, s.Refuses coloured := by
  obtain ⟨_, _, hmarker, _⟩ := refusal editions beyond
  obtain ⟨_, hfaulty, _, halways⟩ := refusal editions coloured
  refine ⟨known_beyond, (hmarker known_beyond).2 ⟨"e", rfl, ?_⟩, not_known_coloured,
    hfaulty.2 ⟨_, .filter (b := edition "a" "1.0.0" ["b"]) ?_ rfl (.here ?_)⟩, fun hall => ?_⟩
  · intro b hb _
    rw [bags_editions] at hb
    fin_cases hb <;> simp [edition, linked]
  · rw [bags_editions]
    exact List.mem_cons_self
  · decide
  · rcases (halways not_known_coloured).1 hall with ⟨name, hm, _⟩ | hmarker
    · cases hm
    · cases hmarker

theorem colour_unnoticed : ¬coloured.Known ∧ ({} : Store).list coloured = .ok [] ∧
    ¬zoned.Known ∧ editions.list zoned = .ok [] ∧
    ¬∀ (s : Store) (q : Query), ¬q.Known → s.Refuses q := by
  have hkeys : coloured.sortKeys? = .ok [] := rfl
  have hempty : ({} : Store).list coloured = .ok [] := list_of_select_nil hkeys rfl
  have hzoned : editions.list zoned = .ok [] :=
    list_of_select_nil (show zoned.sortKeys? = .ok [] from rfl) rfl
  refine ⟨not_known_coloured, hempty, not_known_zoned, hzoned, fun hall => ?_⟩
  obtain ⟨e, he⟩ := hall {} coloured not_known_coloured
  cases hempty.symm.trans he

end Sample

end Store

end TypedArtifacts
