import TypedArtifacts.Proofs.Engine.Moves
import TypedArtifacts.Proofs.Engine.Publication

/-! Removal: what it asks of a handle, what it changes, and when the handle can be trusted to show
what is stored. -/

namespace TypedArtifacts

namespace Query

variable {q : Query} {bags page : List Bag} {b : Bag}

lemma mem_select (h : q.select bags = .ok page) (hb : b ∈ page) : b ∈ bags := by
  induction bags generalizing page with
  | nil =>
    obtain rfl := Except.ok.inj h
    exact hb
  | cons x bags ih =>
    rw [select] at h
    split at h
    · exact List.mem_cons_of_mem _ (ih h hb)
    · obtain ⟨keep, _, h⟩ := Outcome.bind_eq_ok.1 h
      obtain ⟨rest, hr, h⟩ := Outcome.bind_eq_ok.1 h
      obtain rfl := Except.ok.inj h
      split at hb
      · rcases List.mem_cons.1 hb with rfl | hb
        · exact List.mem_cons_self
        · exact List.mem_cons_of_mem _ (ih hr hb)
      · exact List.mem_cons_of_mem _ (ih hr hb)

lemma mem_afterMarker {marker : Option String} (h : afterMarker marker bags = .ok page)
    (hb : b ∈ page) : b ∈ bags := by
  cases marker with
  | none =>
    obtain rfl := Except.ok.inj h
    exact hb
  | some id =>
    simp only [afterMarker] at h
    split at h
    · obtain rfl := Except.ok.inj h
      exact List.mem_of_mem_drop hb
    · cases h

lemma mem_upTo {limit : Option ℕ} (hb : b ∈ upTo limit bags) : b ∈ bags := by
  cases limit with
  | none => exact hb
  | some n => exact List.mem_of_mem_take hb

lemma mem_page (h : q.page bags = .ok page) (hb : b ∈ page) : b ∈ bags := by
  obtain ⟨keys, _, h⟩ := Outcome.bind_eq_ok.1 h
  obtain ⟨selected, hs, h⟩ := Outcome.bind_eq_ok.1 h
  obtain ⟨rest, hr, h⟩ := Outcome.bind_eq_ok.1 h
  obtain rfl := Except.ok.inj h
  have hsorted := mem_afterMarker hr (mem_upTo hb)
  exact mem_select hs (List.mem_mergeSort.1 hsorted)

end Query

namespace Artifact

lemma populatedDependencies_eq_nil {a : Artifact} :
    a.populatedDependencies = [] ↔ ∀ e ∈ a.fieldsOf .dependency, targets e.2.value? = [] := by
  have h : ∀ ts : List Artifact, ¬(!ts.isEmpty) = true ↔ ts = [] := fun ts => by simp
  simp only [populatedDependencies, List.filter_eq_nil_iff, List.forall_mem_map, h]

lemma targets_collect {d : Definition Artifact} {x : Artifact} (xs : List Artifact) :
    ∃ w ts, collect d ((x :: xs).map .artifact) = some w ∧ targets (some w) = x :: ts ∧
      ts ⊆ xs := by
  unfold collect
  split
  · exact ⟨_, xs, rfl, by simp [targets, List.filterMap_map, Value.artifact?], List.Subset.refl _⟩
  · exact ⟨_, [], rfl, rfl, List.nil_subset _⟩

variable [Predicates Artifact]

lemma shown_of_stored {t : ArtifactType} (ht : t.Declared) {id : String} {now : Instant}
    {vs ds : Values} {b : Artifact}
    (hb : ((blank t id now).seedDefaults).storeAll (vs ++ ds) = .ok b) (hkeys : (Dict.keys ds).Nodup)
    {name : String} {d : Definition Artifact} (hd : (name, d) ∈ t.attributes)
    {w : Value Artifact} (hw : (name, some w) ∈ ds) :
    ∃ f, b.fields.lookup name = some f ∧ f.definition = d ∧ f.value? = some (d.normalize w) := by
  obtain ⟨b₀, hb₀, hb⟩ := storeAll_append hb
  have hdefs : ((blank t id now).seedDefaults).definitions = t.attributes :=
    (coherent_blank ht id now).seedDefaults.definitions
  obtain ⟨_, hd₀, _, _⟩ := storeAll_peek (hdefs ▸ ht.attributes.1) hb₀
  rw [hdefs] at hd₀
  obtain ⟨_, hdb, _, hgiven⟩ := storeAll_peek (hd₀ ▸ ht.attributes.1) hb
  have hpeek : b.peek name = some (d.normalize w) := by
    rw [hgiven name d (some w) (hd₀ ▸ hd) (Dict.mem_keys_of_mem hw) fun v hv => ?_]
    · rw [Option.map_some, Option.some_or]
    · have hl := Dict.lookup_of_mem hkeys hv
      rw [Dict.lookup_of_mem hkeys hw] at hl
      exact (Option.some.inj hl).symm
  obtain ⟨f, hf, hv⟩ := Option.bind_eq_some_iff.1 hpeek
  have hfound : b.fields.lookup name = some f := hf
  refine ⟨f, hfound, ?_, hv⟩
  have hl := Dict.lookup_of_mem ht.attributes.1.nodup hd
  rw [← hd₀, ← hdb, lookup_definitions, hfound] at hl
  exact Option.some.inj hl

lemma shown_of_listed {c : Catalog} (hc : c.Registered) {y : Bag} {a : Artifact}
    (hread : ofBag c y = .ok a) (hy : y.OfType c) {name : String}
    {entries : List (DependencyEntry Bag)} (hm : (name, entries) ∈ y.dependencies)
    (hne : entries ≠ []) :
    ∃ f x xs w ts, (name, f) ∈ a.fieldsOf .dependency ∧ f.value? = some w ∧
      a.peek name = some w ∧ targets (some w) = x :: ts ∧ ts ⊆ xs ∧
      TargetsRead c entries (x :: xs) := by
  obtain ⟨t, ps, bs, ds, b, hname, _, _, hds, hb, rfl⟩ := ofBag_eq_ok hread
  obtain ⟨u, hu, htn, htv, hnodup, hrole⟩ := hy
  obtain rfl : u = t := by
    rw [htn, htv] at hname
    exact Except.ok.inj ((hc.byName_eq hu).symm.trans hname)
  obtain ⟨d, hd, hdep⟩ := hrole _ hm
  obtain ⟨q, hq, d', xs, hd', hxs, rfl⟩ := Outcome.exists_right (dependencyValues_eq_ok hds) hm
  have hdeclared := hc.declared u hu
  obtain rfl : d' = d := by
    rw [definitionOf, Dict.lookup_of_mem hdeclared.attributes.1.nodup hd] at hd'
    exact (Except.ok.inj hd').symm
  cases xs with
  | nil =>
    cases hxs
    exact absurd rfl hne
  | cons x xs =>
    obtain ⟨w, ts, hw, hts, hsub⟩ := targets_collect (d := d') (x := x) xs
    have hkeys : (Dict.keys ds).Nodup := by
      rw [keys_dependencyValues hds]
      exact hnodup
    rw [hw] at hq
    obtain ⟨f, hf, hfd, hv⟩ := shown_of_stored hdeclared hb hkeys hd hq
    rw [Definition.normalize_dependency hdep] at hv
    have hmem : (name, f) ∈ b.fieldsOf .dependency :=
      mem_fieldsOf.2 ⟨Dict.mem_of_lookup hf, hfd ▸ hdep⟩
    have hpeek : b.peek name = some w := Option.bind_eq_some_iff.2 ⟨f, hf, hv⟩
    exact ⟨f, x, xs, w, ts, hmem, hv, hpeek, hts, hsub, hxs⟩

end Artifact

namespace Engine

variable {e : Engine} {a : Artifact} {now : Instant} {path : List String}

lemma remove_eq_ok : (e.remove now a).2 = .ok () ↔
    a.populatedDependencies = [] ∧ ∃ b, e.store.find? a.id = some b := by
  rw [remove_eq]
  cases a.populatedDependencies with
  | cons p ps => simp
  | nil =>
    cases e.store.find? a.id with
    | none => simp
    | some b => simp

lemma remove_refused (h : (e.remove now a).2 ≠ .ok ()) : (e.remove now a).1 = e := by
  rw [remove_eq] at h ⊢
  cases hp : a.populatedDependencies with
  | cons p ps => rfl
  | nil =>
    cases hb : e.store.find? a.id with
    | none => rfl
    | some b => simp [hp, hb] at h

lemma remove_marks (he : e.store.Orderly) {b : Bag} (hb : e.store.find? a.id = some b)
    (h : (e.remove now a).2 = .ok ()) :
    (∃ store, (e.remove now a).1 = { e with store := store }) ∧
      (e.remove now a).1.store.find? a.id =
        some { b with state := .deleted, deletedAt := some now, updatedAt := now } ∧
      ∀ id, id ≠ a.id → (e.remove now a).1.store.find? id = e.store.find? id := by
  obtain ⟨hp, _⟩ := remove_eq_ok.1 h
  have hid : b.id = a.id := he.keyed _ _ hb
  have hcollapsed := he.collapsed_of_find? hb
  let marked : Bag := { b with state := .deleted, deletedAt := some now, updatedAt := now }
  have hremove : (e.remove now a).1 = { e with store := e.store.put marked } := by
    rw [remove_eq, hp, hb]
  have hmarked : marked.collapsed = marked := congrArg (fun b : Bag =>
    { b with state := .deleted, deletedAt := some now, updatedAt := now }) hcollapsed
  rw [hremove]
  refine ⟨⟨_, rfl⟩, ?_, fun id hne => Store.find?_put_of_ne (hid.symm ▸ hne) _⟩
  have hput := Store.find?_put_self marked e.store
  rw [hmarked] at hput
  exact hid ▸ hput

variable [Predicates Artifact]

/-- A handle that was read from its stored bag with all dependencies expanded, after those on the
path and not among them. -/
def Whole (e : Engine) (path : List String) (a : Artifact) : Prop :=
  a.id ∉ path ∧ ∃ b fresh y, e.store.find? a.id = some b ∧
    Bag.FreshOff e.store.bags fresh (path ++ [a.id]) ∧
    b.expandAmong e.store.bags fresh = .ok y ∧ Artifact.ofBag e.catalog y = .ok a

omit [Predicates Artifact] in
lemma ofType_expansion {b y : Bag} {fresh : List (String × Bag)} (hb : b.OfType e.catalog)
    (hy : b.expandAmong e.store.bags fresh = .ok y) : y.OfType e.catalog := by
  obtain ⟨dependencies, rfl, hall⟩ := Bag.expandAmong_ok hy
  obtain ⟨t, ht, hname, hversion, hn, hrole⟩ := hb
  have hkeys : Dict.keys dependencies = Dict.keys b.dependencies := by
    have hmap := List.forall₂_map_left_iff.2 (List.forall₂_map_right_iff.2
      (hall.imp fun p q hpq => hpq.1.symm))
    rw [List.forall₂_eq_eq_eq] at hmap
    exact hmap.symm
  refine ⟨t, ht, hname, hversion, hkeys.symm ▸ hn, fun p hp => ?_⟩
  obtain ⟨q, hq, hqp, _⟩ := Outcome.exists_left hall hp
  exact hqp ▸ hrole q hq

lemma Whole.unpopulated (hc : e.catalog.Registered) (ht : e.Typed) (h : e.Whole path a)
    (hp : a.populatedDependencies = []) {b : Bag} (hb : e.store.find? a.id = some b) :
    b.dependencyIds = [] := by
  obtain ⟨_, s, fresh, y, hs, _, hy, hread⟩ := h
  obtain rfl : s = b := Option.some.inj (hs.symm.trans hb)
  have hentries : s.entries = [] := by
    by_contra hne
    obtain ⟨entry, hentry⟩ := List.exists_mem_of_ne_nil _ hne
    obtain ⟨entry', hentry', _⟩ := Bag.expands_of_mem hy hentry
    obtain ⟨name, es, hm, hes⟩ := Bag.mem_entries.1 hentry'
    obtain ⟨f, x, xs, w, ts, hf, hv, _, hts, _⟩ := Artifact.shown_of_listed hc hread
      (ofType_expansion (ht _ _ hs) hy) hm (List.ne_nil_of_mem hes)
    have hnone := Artifact.populatedDependencies_eq_nil.1 hp _ hf
    rw [hv, hts] at hnone
    cases hnone
  refine List.eq_nil_iff_forall_not_mem.2 fun id hid => ?_
  obtain ⟨entry, hentry, _⟩ := Bag.mem_dependencyIds.1 hid
  rw [hentries] at hentry
  cases hentry

lemma whole_of_find? (he : e.store.Orderly) {id : String} {b y : Bag}
    (hb : e.store.find? id = some b) (hy : b.expand e.store.bags = .ok y)
    (hread : Artifact.ofBag e.catalog y = .ok a) : e.Whole [] a := by
  have hid : b.id = id := he.keyed _ _ hb
  have haid : a.id = b.id :=
    congrArg Header.id ((Artifact.header_ofBag hread).trans (Bag.header_expandAmong hy))
  refine ⟨List.not_mem_nil, b, _, y, ?_, ?_, hy, hread⟩
  · rw [haid, hid, hb]
  · rw [haid]
    exact Store.freshOff_erase e.store.bags b.id

lemma whole_get (he : e.store.Orderly) {id : String} (h : e.get id = .ok a) : e.Whole [] a := by
  rw [get_eq] at h
  obtain ⟨y, hy, hread⟩ := Outcome.bind_eq_ok.1 h
  rw [Outcome.mapError_eq_ok, Store.fetch] at hy
  cases hb : e.store.find? id with
  | none =>
    rw [hb] at hy
    cases hy
  | some b =>
    rw [hb] at hy
    exact whole_of_find? he hb hy hread

lemma whole_list (he : e.store.Orderly) {q : Query} {as : List Artifact} (h : e.list q = .ok as)
    (ha : a ∈ as) : e.Whole [] a := by
  obtain ⟨ys, hys, h⟩ := Outcome.bind_eq_ok.1 h
  obtain ⟨bags, hbags, hys⟩ := Outcome.bind_eq_ok.1 (Outcome.mapError_eq_ok.1 hys)
  obtain ⟨y, hy, hread⟩ := Outcome.exists_left (Outcome.mapM_eq_ok.1 h) ha
  obtain ⟨b, hb, hexp⟩ := Outcome.exists_left (Outcome.mapM_eq_ok.1 hys) hy
  have hstored := Query.mem_page (Outcome.mapError_eq_ok.1 hbags) hb
  exact whole_of_find? he (he.find?_of_mem hstored) hexp hread

lemma whole_call [ArtifactPredicates] (he : e.store.Orderly) {c : Call Artifact}
    (h : (e.call c).2 = .ok (some a)) : (e.call c).1.Whole [] a := by
  have hends := e.ends c
  have horderly : (e.call c).1.store.Orderly := by
    rw [call_store]
    cases e.writes? c with
    | none => exact he
    | some b => exact he.put b
  revert hends h horderly
  generalize e.writes? c = w
  generalize e.call c = r
  intro h hends horderly
  cases hends with
  | refused storage f => cases h
  | read storage b =>
    obtain ⟨x, hx, hxa⟩ := Outcome.map_eq_ok.1 h
    obtain rfl := Option.some.inj hxa
    have hget : ({ e with store := e.store.put b, storage := storage } : Engine).get b.id =
        .ok x := hx
    exact whole_get horderly hget
  | removed storage b => cases h

lemma Whole.dependency (hc : e.catalog.Registered) (he : e.store.Orderly) (ht : e.Typed)
    (h : e.Whole path a) {b : Bag} (hb : e.store.find? a.id = some b) {name : String}
    (hname : ∃ entries, (name, entries) ∈ b.dependencies ∧ entries ≠ []) {t : Artifact}
    (hmem : t ∈ dependencies a name) (hoff : t.id ∉ path ++ [a.id]) :
    e.Whole (path ++ [a.id]) t := by
  obtain ⟨_, s, fresh, y, hs, hfresh, hy, hread⟩ := h
  obtain rfl : s = b := Option.some.inj (hs.symm.trans hb)
  obtain ⟨entries, hm, hne⟩ := hname
  obtain ⟨dependencies, hshape, hall⟩ := Bag.expandAmong_ok hy
  obtain ⟨⟨other, entries'⟩, hm', hother, hexp⟩ := Outcome.exists_right hall hm
  obtain rfl : name = other := hother.symm
  have hlisted : (name, entries') ∈ y.dependencies := by
    rw [hshape]
    exact hm'
  have hne' : entries' ≠ [] := by
    rintro rfl
    cases hexp
    exact hne rfl
  obtain ⟨f, x, xs, w, ts, _, _, hpeek, hts, hsub, hxs⟩ :=
    Artifact.shown_of_listed hc hread (ofType_expansion (ht _ _ hs) hy) hlisted hne'
  rw [Engine.dependencies, hpeek, hts] at hmem
  have hx : t ∈ x :: xs := (List.mem_cons.1 hmem).elim (· ▸ List.mem_cons_self)
    fun h => List.mem_cons_of_mem _ (hsub h)
  obtain ⟨_, hentry, z, rfl, hz⟩ := Outcome.exists_left hxs hx
  -- What was nested in the bag is the stored bag of the target, expanded over the bags that are left.
  have hid : t.id = z.id := congrArg Header.id (Artifact.header_ofBag hz)
  have hzm : .expanded z ∈ y.entries := Bag.mem_entries.2 ⟨name, entries', hlisted, hentry⟩
  obtain ⟨u, _, hu, hcase⟩ := Bag.child_expandAmong he.keyed hy hfresh hzm
  rw [← hid] at hu hcase
  rcases hcase with ⟨hon, _⟩ | ⟨_, hzexp⟩
  · exact absurd hon hoff
  · exact ⟨hoff, u, _, z, hu, hfresh.erase _, hzexp, hz⟩

end Engine

namespace Session

section

variable [Predicates Artifact] [ArtifactPredicates]

def Reads : Move → Prop
  | .act (.get _) => True
  | .act (.list _) => True
  | .act (.call _) => True
  | _ => False

lemma whole_of_handed {s : Session} (h : s.engine.store.Orderly) {m : Move} (hm : Reads m) :
    ∃ handed, (s.move m).handles = s.handles ++ handed ∧
      ∀ a ∈ handed, (s.move m).engine.Whole [] a := by
  cases m with
  | dependencies i name => cases hm
  | act action =>
    cases action with
    | create => cases hm
    | setAttribute => cases hm
    | get id =>
      refine ⟨_, rfl, fun a ha => ?_⟩
      exact Engine.whole_get h (Outcome.toOption_eq_some.1 (Option.mem_toList.1 ha))
    | list q =>
      refine ⟨_, rfl, fun a ha => ?_⟩
      cases hl : s.engine.list q with
      | error f =>
        rw [hl] at ha
        cases ha
      | ok as =>
        rw [hl] at ha
        exact Engine.whole_list h hl ha
    | call c =>
      simp only [move, step]
      cases c.resolve? s.handles with
      | none => exact ⟨[], (List.append_nil _).symm, List.forall_mem_nil _⟩
      | some c =>
        refine ⟨_, rfl, fun a ha => ?_⟩
        obtain ⟨r, hr, ha⟩ := Option.bind_eq_some_iff.1 (Option.mem_toList.1 ha)
        obtain rfl : r = some a := ha
        exact Engine.whole_call h (Outcome.toOption_eq_some.1 hr)

def Spares (id : String) (s : Session) (m : Move) : Prop :=
  ∀ b ∈ s.stores? m, b.id ≠ id

lemma unpopulated_run {s : Session} (hs : s.engine.store.bags = [])
    (hc : s.engine.catalog.Registered) {before after : List Move}
    (hm : Along OnTypes s before) {path : List String} {a : Artifact}
    (ha : (s.run before).engine.Whole path a) (hspares : Along (Spares a.id) (s.run before) after)
    (hp : a.populatedDependencies = []) {b : Bag}
    (hb : (s.run (before ++ after)).engine.store.find? a.id = some b) : b.dependencyIds = [] := by
  have hc' : (s.run before).engine.catalog.Registered := (s.run_catalog before).symm ▸ hc
  have ht : (s.run before).engine.Typed := typed_run hc (Engine.typed_of_empty hs) hm
  rw [run_append, find?_run_of_untouched hspares] at hb
  exact ha.unpopulated hc' ht hp hb

/-- Along every run, a removal goes through exactly if the handle shows no dependency and its id is
stored. It changes the state and two dates of the one bag, and nothing if it is refused. What the
handle shows is what counts: it tells that the stored bag has no dependencies if the handle was read
from the store with its dependencies and nothing was stored under its id since. Fetching, listing and
calls hand out such handles, and so does following a dependency unless that closes a cycle. -/
theorem remove_guarded {s : Session} (hs : s.engine.store.bags = []) :
    (∀ (moves : List Move) (a : Artifact) (now : Instant) (e : Engine),
      (s.run moves).engine = e →
      ((e.remove now a).2 = .ok () ↔
        a.populatedDependencies = [] ∧ ∃ b, e.store.find? a.id = some b) ∧
      ((e.remove now a).2 ≠ .ok () → (e.remove now a).1 = e) ∧
      ∀ b, e.store.find? a.id = some b → (e.remove now a).2 = .ok () →
        (∃ store, (e.remove now a).1 = { e with store := store }) ∧
        (e.remove now a).1.store.find? a.id =
          some { b with state := .deleted, deletedAt := some now, updatedAt := now } ∧
        ∀ id, id ≠ a.id → (e.remove now a).1.store.find? id = e.store.find? id) ∧
    (s.engine.catalog.Registered → ∀ before : List Move, Along OnTypes s before →
      (∀ (after : List Move) (path : List String) (a : Artifact) (now : Instant) (b : Bag),
        (s.run before).engine.Whole path a → Along (Spares a.id) (s.run before) after →
        (s.run (before ++ after)).engine.store.find? a.id = some b →
        ((s.run (before ++ after)).engine.remove now a).2 = .ok () → b.dependencyIds = []) ∧
      (∀ m, Reads m → ∃ handed,
        ((s.run before).move m).handles = (s.run before).handles ++ handed ∧
        ∀ a ∈ handed, ((s.run before).move m).engine.Whole [] a) ∧
      ∀ (path : List String) (a t : Artifact) (b : Bag) (name : String),
        (s.run before).engine.Whole path a →
        (s.run before).engine.store.find? a.id = some b →
        (∃ entries, (name, entries) ∈ b.dependencies ∧ entries ≠ []) →
        t ∈ Engine.dependencies a name → t.id ∉ path ++ [a.id] →
        (s.run before).engine.Whole (path ++ [a.id]) t) := by
  have horderly : ∀ moves, (s.run moves).engine.store.Orderly :=
    orderly_run (Store.orderly_of_empty hs)
  refine ⟨fun moves a now e he => ?_, fun hc before hm => ?_⟩
  · subst he
    exact ⟨Engine.remove_eq_ok, Engine.remove_refused,
      fun b hb hok => Engine.remove_marks (horderly moves) hb hok⟩
  · have hc' : (s.run before).engine.catalog.Registered := (s.run_catalog before).symm ▸ hc
    have ht : (s.run before).engine.Typed := typed_run hc (Engine.typed_of_empty hs) hm
    refine ⟨fun after path a now b ha hspares hb hok => ?_, fun m hreads => ?_,
      fun path a t b name ha hb hname hmem hoff => ?_⟩
    · exact unpopulated_run hs hc hm ha hspares (Engine.remove_eq_ok.1 hok).1 hb
    · exact whole_of_handed (horderly before) hreads
    · exact ha.dependency hc' (horderly before) ht hb hname hmem hoff

end

namespace Sample

open Engine.Sample

attribute [local instance] Predicates.parityAndSize ArtifactPredicates.owned

def begun : Session where
  engine := net

def storing : List Move :=
  [.act (.create "Node" none "a" "a" "1.0.0" ⟨0, 0⟩), .act (.call (.add 0))]

def naming : List Move :=
  [.act (.create "Node" none "b" "b" "1.0.0" ⟨0, 0⟩)]

lemma registered_net : net.catalog.Registered :=
  .register .empty declared_node rfl

lemma ofType_lone : lone.OfType net.catalog :=
  ⟨nodeType, List.mem_singleton_self _, rfl, rfl⟩

lemma get_lone : (begun.run storing).engine.get "a" = .ok lone := by
  rw [Engine.get_leaf (b := .ofArtifact lone) rfl rfl]
  rfl

theorem remove_guarded_lone : begun.engine.store.bags = [] ∧
    begun.engine.catalog.Registered ∧ Along OnTypes begun storing ∧
    (begun.run storing).engine.Whole [] lone ∧
    Along (Spares "a") (begun.run storing) naming ∧
    ((begun.run (storing ++ naming)).engine.remove ⟨1, 0⟩ lone).2 = .ok () ∧
    (Bag.ofArtifact lone).dependencyIds = [] := by
  have hs : begun.engine.store.bags = [] := rfl
  have htypes : Along OnTypes begun storing := by
    refine ⟨nofun, ?_, trivial⟩
    rintro c ⟨⟩ a ⟨⟩
    exact ofType_lone
  have hwhole := Engine.whole_get (orderly_run (Store.orderly_of_empty hs) storing) get_lone
  have hspares : Along (Spares "a") (begun.run storing) naming := ⟨nofun, trivial⟩
  have hremove : ((begun.run (storing ++ naming)).engine.remove ⟨1, 0⟩ lone).2 = .ok () := rfl
  exact ⟨hs, registered_net, htypes, hwhole, hspares, hremove,
    ((remove_guarded hs).2 registered_net storing htypes).1 naming [] lone ⟨1, 0⟩ _ hwhole hspares
      rfl hremove⟩

def straying : List Move :=
  [.act (.create "Node" none "a" "a" "1.0.0" ⟨0, 0⟩),
    .act (.create "Node" none "b" "b" "1.0.0" ⟨0, 0⟩),
    .act (.setAttribute 1 "next" (.value (some (.artifact lone)))),
    .act (.call (.add 0)), .act (.call (.add 2))]

/-- A node that is stored with a dependency is removed: with a handle from before the dependency, and
with the one that is handed out where it is met a second time. -/
theorem removed_populated :
    (begun.run straying).handles[1]? = some other ∧
    ((begun.run straying).engine.store.find? "b").map (·.dependencyIds) = some ["a"] ∧
    ((begun.run straying).engine.remove ⟨2, 0⟩ other).2 = .ok () ∧
    loop.Reachable ∧ loop.Navigated ["a", "b"] cutLeader ∧
    (loop.store.find? "a").map (·.dependencyIds) = some ["b"] ∧
    (loop.remove ⟨2, 0⟩ cutLeader).2 = .ok () :=
  ⟨rfl, rfl, rfl, reachable_loop, navigated_cutLeader, rfl, rfl⟩

end Sample

end Session

end TypedArtifacts
