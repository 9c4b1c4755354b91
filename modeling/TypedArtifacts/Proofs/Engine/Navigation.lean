import TypedArtifacts.Proofs.Artifact.Reread
import TypedArtifacts.Proofs.Engine.Session
import TypedArtifacts.Proofs.Store.Expansion

/-! Saving what was fetched, or reached from that along dependencies, as it is. -/

namespace TypedArtifacts

open Artifact

section

variable [Predicates Artifact]

def Bag.Holds (c : Catalog) (b : Bag) : Prop :=
  ∃ t ∈ c.types, ∃ a : Artifact, a.Sound t ∧ Bag.ofArtifact a = b

lemma Bag.Holds.collapsed {c : Catalog} {b : Bag} (h : b.Holds c) : b.collapsed = b := by
  obtain ⟨_, _, a, _, rfl⟩ := h
  exact collapsed_ofArtifact a

lemma Bag.Holds.register {c c' : Catalog} {t : ArtifactType} {b : Bag} (h : b.Holds c)
    (hc : c.register t = .ok c') : b.Holds c' := by
  obtain ⟨_, rfl⟩ := Catalog.register_ok hc
  obtain ⟨u, hu, a, ha, hb⟩ := h
  exact ⟨u, Catalog.mem_place.2 (Or.inr hu), a, ha, hb⟩

end

namespace Engine

section

variable [Predicates Artifact] [ArtifactPredicates]

/-- An engine after types were registered, bytes changed, and calls made that store nothing but
bags of storable artifacts. -/
inductive Reachable : Engine → Prop
  | start (settings : Settings) (storage : Storage) :
      Reachable { settings := settings, storage := storage }
  | registerType {e e' : Engine} {d : Descriptor} {t : ArtifactType} : Reachable e → t.Declared →
      e.registerType d = .ok (e', t) → Reachable e'
  | storage {e : Engine} (storage : Storage) : Reachable e → Reachable { e with storage := storage }
  | call {e : Engine} (c : Call Artifact) : Reachable e → (∀ b ∈ e.writes? c, b.Holds e.catalog) →
      Reachable (e.call c).1

structure Kept (e : Engine) : Prop where
  registered : e.catalog.Registered
  keyed : e.store.Keyed
  holds : ∀ id b, e.store.find? id = some b → b.Holds e.catalog

lemma kept_call {e : Engine} (h : e.Kept) {c : Call Artifact}
    (hw : ∀ b ∈ e.writes? c, b.Holds e.catalog) : (e.call c).1.Kept := by
  obtain ⟨storage, he⟩ := e.call_engine c
  rw [he]
  cases hb : e.writes? c with
  | none => exact ⟨h.registered, h.keyed, h.holds⟩
  | some b =>
    have hholds := hw b hb
    refine ⟨h.registered, h.keyed.put b, fun id u hu => ?_⟩
    change (e.store.put b).find? id = some u at hu
    rw [Store.find?_put] at hu
    split at hu
    · obtain rfl := Option.some.inj hu
      rwa [hholds.collapsed]
    · exact h.holds id u hu

lemma Reachable.kept {e : Engine} (h : e.Reachable) : e.Kept := by
  induction h with
  | start settings storage => exact ⟨.empty, nofun, nofun⟩
  | @registerType e e' d t _ ht hr ih =>
    rw [Engine.registerType] at hr
    obtain ⟨u, _, hr⟩ := Outcome.bind_eq_ok.1 hr
    obtain ⟨c', hc, hr⟩ := Outcome.bind_eq_ok.1 hr
    obtain ⟨rfl, rfl⟩ := Prod.mk.inj (Except.ok.inj hr)
    rw [Outcome.mapError_eq_ok] at hc
    exact ⟨.register ih.registered ht hc, ih.keyed, fun id b hb => (ih.holds id b hb).register hc⟩
  | storage storage _ ih => exact ⟨ih.registered, ih.keyed, ih.holds⟩
  | call c _ hw ih => exact kept_call ih hw

end

/-- A handle that was fetched, or handed out as a dependency of another one, with the ids of those
that were passed on the way to it. -/
inductive Navigated [Predicates Artifact] (e : Engine) : List String → Artifact → Prop
  | get {id : String} {a : Artifact} : e.get id = .ok a → Navigated e [] a
  | dependency {path : List String} {a t : Artifact} (name : String) : Navigated e path a →
      t ∈ dependencies a name → Navigated e (path ++ [a.id]) t

section

variable {e : Engine} {path : List String} {h : Artifact}

def ReadFrom (e : Engine) (path : List String) (h : Artifact) (s y : Bag) : Prop :=
  (h.id ∈ path ∧ y = s.withoutDependencies) ∨ (h.id ∉ path ∧ ∃ fresh,
    Bag.FreshOff e.store.bags fresh (path ++ [h.id]) ∧ s.expandAmong e.store.bags fresh = .ok y)

lemma standFor_expansion (hk : e.store.Keyed) {a : Artifact} {y : Bag}
    {fresh : List (String × Bag)}
    (hy : (Bag.ofArtifact a).expandAmong e.store.bags fresh = .ok y) :
    y = { Bag.ofArtifact a with dependencies := y.dependencies } ∧
      Reread.StandFor a y.dependencies := by
  have hc := Bag.collapsed_expandAmong hk hy
  rw [collapsed_ofArtifact] at hc
  obtain ⟨dependencies, rfl, _⟩ := Bag.expandAmong_ok hy
  exact ⟨rfl, congrArg Bag.dependencies hc⟩

variable [Predicates Artifact]

lemma origin_get (hk : e.Kept) {id : String} (hh : e.get id = .ok h) :
    ∃ s y, e.store.find? h.id = some s ∧ ofBag e.catalog y = .ok h ∧ e.ReadFrom [] h s y := by
  rw [get_eq] at hh
  obtain ⟨y, hy, hread⟩ := Outcome.bind_eq_ok.1 hh
  rw [Outcome.mapError_eq_ok, Store.fetch] at hy
  cases hs : e.store.find? id with
  | none =>
    rw [hs] at hy
    cases hy
  | some s =>
    rw [hs] at hy
    have hhead : h.toHeader = s.toHeader := (header_ofBag hread).trans (Bag.header_expandAmong hy)
    have hid : h.id = s.id := congrArg Header.id hhead
    have hsid : s.id = id := hk.keyed _ _ hs
    refine ⟨s, y, ?_, hread, Or.inr ⟨List.not_mem_nil, _, ?_, hy⟩⟩
    · rw [hid, hsid, hs]
    · rw [hid]
      exact Store.freshOff_erase e.store.bags s.id

lemma origin_dependency (hk : e.Kept) {a t : Artifact} {s y : Bag} {name : String}
    (hs : e.store.find? a.id = some s) (hread : ofBag e.catalog y = .ok a)
    (hfrom : e.ReadFrom path a s y) (ha : a.id ∉ path) (ht : t ∈ dependencies a name) :
    ∃ s y, e.store.find? t.id = some s ∧ ofBag e.catalog y = .ok t ∧
      e.ReadFrom (path ++ [a.id]) t s y := by
  obtain ⟨hon, _⟩ | ⟨_, fresh, hfresh, hy⟩ := hfrom
  · exact absurd hon ha
  obtain ⟨u, hu, a₀, hsound, rfl⟩ := hk.holds _ _ hs
  obtain ⟨hshape, hstand⟩ := standFor_expansion hk.keyed hy
  rw [hshape] at hread
  have hx := Reread.of_standFor hsound hk.registered hu hstand hread
  obtain ⟨p, hp, z, hz, hzt⟩ := hx.targets_read hsound hstand ht
  have hzm : .expanded z ∈ y.entries := Bag.mem_entries.2 ⟨p.1, p.2, hp, hz⟩
  obtain ⟨w, _, hw, hcase⟩ := Bag.child_expandAmong hk.keyed hy hfresh hzm
  have hid : t.id = z.id := congrArg Header.id (header_ofBag hzt)
  rw [← hid] at hw hcase
  refine ⟨w, z, hw, hzt, hcase.imp_right fun hoff => ⟨hoff.1, _, hfresh.erase _, hoff.2⟩⟩

theorem Navigated.origin (hk : e.Kept) (hh : e.Navigated path h) (hn : path.Nodup) :
    ∃ s y, e.store.find? h.id = some s ∧ ofBag e.catalog y = .ok h ∧ e.ReadFrom path h s y := by
  induction hh with
  | get hget => exact origin_get hk hget
  | @dependency path a t name _ ht ih =>
    obtain ⟨hpath, _, hoff⟩ := List.nodup_append.1 hn
    obtain ⟨s, y, hs, hread, hfrom⟩ := ih hpath
    have ha : a.id ∉ path := fun hm => hoff _ hm _ (List.mem_singleton_self _) rfl
    exact origin_dependency hk hs hread hfrom ha ht

lemma ReadFrom.ofArtifact_eq (hk : e.Kept) {u : ArtifactType} (hu : u ∈ e.catalog.types)
    {a : Artifact} (ha : a.Sound u) {y : Bag} (hread : ofBag e.catalog y = .ok h)
    (hfrom : e.ReadFrom path h (Bag.ofArtifact a) y) (now : Instant) :
    Bag.ofArtifact h = { Bag.ofArtifact a with
      dependencies := if h.id ∈ path then (Bag.ofArtifact (blank u h.id now)).dependencies
        else (Bag.ofArtifact a).dependencies } := by
  rcases hfrom with ⟨hon, rfl⟩ | ⟨hoff, _, _, hy⟩
  · have hx := Reread.of_cut ha hk.registered hu hread
    rw [if_pos hon, hx.ofArtifact_eq ha, hx.dependencies_cut ha h.id now]
  · obtain ⟨hshape, hstand⟩ := standFor_expansion hk.keyed hy
    rw [hshape] at hread
    have hx := Reread.of_standFor ha hk.registered hu hstand hread
    rw [if_neg hoff, hx.ofArtifact_eq ha, hx.dependencies_eq ha hstand]

lemma Navigated.nodup_or_default (hk : e.Kept) (hh : e.Navigated path h) :
    path.Nodup ∨ ∃ u ∈ e.catalog.types, ∃ p ∈ u.attributes,
      p.2.role = .dependency ∧ p.2.default ≠ none := by
  induction hh with
  | get _ => exact Or.inl List.nodup_nil
  | @dependency path a t name ha ht ih =>
    rcases ih with hpath | hdefault
    · obtain ⟨s, y, hs, hread, ⟨hon, rfl⟩ | ⟨hoff, _⟩⟩ := ha.origin hk hpath
      · obtain ⟨u, hu, a₀, hsound, rfl⟩ := hk.holds _ _ hs
        have hx := Reread.of_cut hsound hk.registered hu hread
        obtain ⟨d, hd, hr⟩ := hx.dependency_of_target hsound ht
        refine Or.inr ⟨u, hu, _, hsound.definitions_eq ▸ hd, hr, fun hnone => ?_⟩
        rw [dependencies, hx.absent _ hd hr List.not_mem_nil, hnone] at ht
        cases ht
      · refine Or.inl (List.nodup_append.2 ⟨hpath, List.nodup_singleton _, ?_⟩)
        intro id hm _ hz heq
        rw [List.mem_singleton.1 hz] at heq
        exact hoff (heq ▸ hm)
    · exact Or.inr hdefault

lemma store_save {s : Bag} (hs : e.store.find? h.id = some s) (now : Instant) :
    (e.save now h).1.store = e.store.put { Bag.ofArtifact h with updatedAt := now } := by
  rw [save_eq, saved?, hs]
  rfl

lemma find?_save {s : Bag} (hs : e.store.find? h.id = some s) (now : Instant) :
    (e.save now h).1.store.find? h.id = some { Bag.ofArtifact h with updatedAt := now } := by
  have hcollapsed : ({ Bag.ofArtifact h with updatedAt := now } : Bag).collapsed =
      { Bag.ofArtifact h with updatedAt := now } :=
    congrArg (fun b : Bag => { b with updatedAt := now }) (collapsed_ofArtifact h)
  rw [store_save hs]
  exact (Store.find?_put_self _ e.store).trans (congrArg some hcollapsed)

theorem save_navigated [ArtifactPredicates] (he : e.Reachable) (hh : e.Navigated path h)
    (now : Instant) :
    (path.Nodup ∨ ∃ u ∈ e.catalog.types, ∃ p ∈ u.attributes,
      p.2.role = .dependency ∧ p.2.default ≠ none) ∧
    (path.Nodup → ∃ stored u, e.store.find? h.id = some stored ∧
      e.catalog.byName stored.typeName (some stored.typeVersion) = .ok u ∧
      (∀ id, id ≠ h.id → (e.save now h).1.store.find? id = e.store.find? id) ∧
      (e.save now h).1.store.find? h.id = some { stored with
        updatedAt := now
        dependencies := if h.id ∈ path then (Bag.ofArtifact (blank u h.id now)).dependencies
          else stored.dependencies } ∧
      ((e.save now h).1.store.find? h.id = some { stored with updatedAt := now } ↔
        (h.id ∈ path →
          stored.dependencies = (Bag.ofArtifact (blank u h.id now)).dependencies))) := by
  have hk := he.kept
  refine ⟨hh.nodup_or_default hk, fun hn => ?_⟩
  obtain ⟨s, y, hs, hread, hfrom⟩ := hh.origin hk hn
  obtain ⟨u, hu, a, ha, rfl⟩ := hk.holds _ _ hs
  have hbyName : e.catalog.byName a.type.name (some a.type.version) = .ok u := by
    rw [ha.coherent.type_eq]
    exact hk.registered.byName_eq hu
  have hfind : (e.save now h).1.store.find? h.id = some { Bag.ofArtifact a with
      updatedAt := now
      dependencies := if h.id ∈ path then (Bag.ofArtifact (blank u h.id now)).dependencies
        else (Bag.ofArtifact a).dependencies } := by
    rw [find?_save hs, hfrom.ofArtifact_eq hk hu ha hread now]
  refine ⟨_, u, hs, hbyName, fun id hid => ?_, hfind, ?_⟩
  · rw [store_save hs, Store.find?_put_of_ne hid]
  · rw [hfind]
    by_cases hon : h.id ∈ path
    · simp only [hon, if_true, true_implies]
      constructor
      · intro heq
        exact (congrArg Bag.dependencies (Option.some.inj heq)).symm
      · intro heq
        rw [← heq]
    · simp only [hon, if_false, false_implies]

end

namespace Sample

attribute [local instance] Predicates.parityAndSize ArtifactPredicates.owned

def node : Descriptor where
  name := "Node"
  version := "1.0.0"
  attributes := [("next", .relation)]

def net : Engine :=
  ((fresh.registerType node).toOption.get rfl).1

def nodeType : ArtifactType :=
  ((fresh.registerType node).toOption.get rfl).2

def lone : Artifact :=
  (net.create "Node" none "a" "a" "1.0.0" ⟨0, 0⟩).toOption.get rfl

def other : Artifact :=
  (net.create "Node" none "b" "b" "1.0.0" ⟨0, 0⟩).toOption.get rfl

def follower : Artifact :=
  (other.set "next" (some (.artifact lone))).toOption.get rfl

def leader : Artifact :=
  (lone.set "next" (some (.artifact follower))).toOption.get rfl

def paired : Engine :=
  ((net.call (.add lone)).1.call (.add follower)).1

def loop : Engine :=
  (paired.call (.save ⟨1, 0⟩ leader)).1

def leaderBag : Bag :=
  { Bag.ofArtifact leader with updatedAt := ⟨1, 0⟩ }

def followerBag : Bag :=
  Bag.ofArtifact follower

def cutFollower : Bag :=
  { followerBag with dependencies := [("next", [.expanded leaderBag.withoutDependencies])] }

lemma expand_follower : followerBag.expandAmong loop.store.bags [] = .ok cutFollower := by
  rw [Bag.expandAmong_eq]
  rfl

lemma expand_leader : leaderBag.expandAmong loop.store.bags [("b", followerBag)] =
    .ok { leaderBag with dependencies := [("next", [.expanded cutFollower])] } := by
  rw [Bag.expandAmong_eq]
  have he : Bag.expandEntry loop.store.bags [("b", followerBag)] leaderBag.id (.id "b") =
      .ok (.expanded cutFollower) := by
    have hexp : (followerBag.expandAmong loop.store.bags []).map DependencyEntry.expanded =
      .ok (.expanded cutFollower) := by
      rw [expand_follower]
      rfl
    rw [← hexp]
    rfl
  have hd : leaderBag.dependencies = [("next", [.id "b"])] := rfl
  simp only [hd, List.mapM_cons, List.mapM_nil, he]
  rfl

def fetched : Artifact :=
  (ofBag loop.catalog { leaderBag with
    dependencies := [("next", [.expanded cutFollower])] }).toOption.get rfl

def passed : Artifact :=
  (ofBag loop.catalog cutFollower).toOption.get rfl

def cutLeader : Artifact :=
  (ofBag loop.catalog leaderBag.withoutDependencies).toOption.get rfl

lemma get_fetched : loop.get "a" = .ok fetched := by
  have hfetch : loop.store.fetch "a" = leaderBag.expandAmong loop.store.bags [("b", followerBag)] :=
    rfl
  rw [get_eq, hfetch, expand_leader]
  rfl

lemma navigated_passed : loop.Navigated ["a"] passed :=
  .dependency "next" (.get get_fetched) (List.mem_singleton_self _)

lemma navigated_cutLeader : loop.Navigated ["a", "b"] cutLeader :=
  .dependency "next" navigated_passed (List.mem_singleton_self _)

lemma declared_node : nodeType.Declared := by
  refine .declare (by simp [settledRule, node]) (fun e he => ?_)
    (show (fresh.settledRule node).declare = .ok nodeType from rfl)
  obtain rfl := List.mem_singleton.1 he
  exact .relation

def next : Definition Artifact :=
  (nodeType.attributes.lookup "next").get rfl

lemma sound_node {a : Artifact} (hw : a.Written nodeType) {v : Option (Value Artifact)} {b : Bool}
    (hf : a.fields = [("next", ⟨next, v, b⟩)]) : a.Sound nodeType := by
  have hnone : a.fieldsOf .property = [] := by
    rw [fieldsOf, hf]
    rfl
  refine ⟨declared_node, hw.coherent declared_node, ?_⟩
  constructor
  case shapeKept =>
    rw [hf, List.forall_mem_singleton]
    refine Definition.forall_within (Definition.shapeKept_ofKind .relation) fun _ hq => ?_
    cases hq
  all_goals
    intro e he
    rw [hnone] at he
    cases he

lemma holds_node {a : Artifact} (hw : a.Written nodeType) {v : Option (Value Artifact)} {b : Bool}
    (hf : a.fields = [("next", ⟨next, v, b⟩)]) : (Bag.ofArtifact a).Holds net.catalog :=
  ⟨nodeType, List.mem_singleton_self _, a, sound_node hw hf, rfl⟩

lemma ordered_artifact (t : Artifact) : ∀ w, some (Value.artifact t) = some w → w.Ordered := by
  rintro _ ⟨⟩
  exact Definition.ordered_atom rfl nofun

lemma reachable_loop : loop.Reachable := by
  have hnet : net.Reachable :=
    .registerType (.start {} {}) declared_node
      (show fresh.registerType node = .ok (net, nodeType) from rfl)
  have hlone : lone.Written nodeType :=
    .create (show Artifact.create nodeType "a" "a" "1.0.0" ⟨0, 0⟩ = .ok lone from rfl)
  have hother : other.Written nodeType :=
    .create (show Artifact.create nodeType "b" "b" "1.0.0" ⟨0, 0⟩ = .ok other from rfl)
  have hfollower : follower.Written nodeType := .set hother (ordered_artifact lone)
    (show other.set "next" (some (.artifact lone)) = .ok follower from rfl)
  have hleader : leader.Written nodeType := .set hlone (ordered_artifact follower)
    (show lone.set "next" (some (.artifact follower)) = .ok leader from rfl)
  refine .call _ (.call _ (.call _ hnet ?_) ?_) ?_
  · rintro b ⟨⟩
    exact holds_node hlone rfl
  · rintro b ⟨⟩
    exact holds_node hfollower rfl
  · rintro b ⟨⟩
    exact holds_node (.header { leader.toHeader with updatedAt := ⟨1, 0⟩ } hleader) rfl

theorem save_passed : (loop.save ⟨2, 0⟩ passed).1.store.find? "b" =
    some { followerBag with updatedAt := ⟨2, 0⟩ } := by
  obtain ⟨_, hsave⟩ := save_navigated reachable_loop navigated_passed ⟨2, 0⟩
  obtain ⟨stored, _, hs, _, _, _, hkept⟩ := hsave (List.nodup_singleton _)
  obtain rfl : followerBag = stored := Option.some.inj hs
  exact hkept.2 (fun hm => absurd hm (by decide))

/-- Saving the first node as it is handed out a second time takes its own list away. -/
theorem targets_lost : loop.Reachable ∧ loop.Navigated ["a", "b"] cutLeader ∧
    (loop.store.find? cutLeader.id).map (·.dependencies) = some [("next", [.id "b"])] ∧
    ((loop.save ⟨2, 0⟩ cutLeader).1.store.find? cutLeader.id).map (·.dependencies) = some [] :=
  ⟨reachable_loop, navigated_cutLeader, rfl, rfl⟩

end Sample

end Engine

end TypedArtifacts
