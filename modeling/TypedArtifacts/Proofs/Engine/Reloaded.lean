import TypedArtifacts.Proofs.Artifact.Recorded
import TypedArtifacts.Proofs.Artifact.Twins
import TypedArtifacts.Proofs.Artifact.WriteOnce
import TypedArtifacts.Proofs.Engine.Call
import TypedArtifacts.Proofs.Store.Expansion

namespace TypedArtifacts

open Artifact

namespace Artifact

/-- If an attribute is read-only, the bag of the artifact tells whether it was assigned. -/
def Evident (name : String) (a : Artifact) : Prop :=
  ∀ f, a.field? name = some f → f.definition.readonly = true →
    (f.assigned = true ↔ f.Recorded name)

def Frozen [ArtifactPredicates] (name : String) (a : Artifact) : Prop :=
  ∃ f, a.field? name = some f ∧ f.definition.mutable = false ∧ a.isMutable = false

lemma standIn_expansion {a : Artifact} {bags fresh : List (String × Bag)} {y : Bag}
    (h : (Bag.ofArtifact a).expandAmong bags fresh = .ok y) :
    ∃ deps, y = { Bag.ofArtifact a with dependencies := deps } ∧ a.StandIn deps := by
  obtain ⟨deps, hy, hd⟩ := Bag.expandAmong_ok h
  exact ⟨deps, hy, hd.imp fun _ _ hq => ⟨hq.1, hq.2.length_eq.symm⟩⟩

end Artifact

namespace Field

lemma isReadOnly_eq_iff {name : String} {f g : Field Artifact} (hd : g.definition = f.definition)
    (hg : g.assigned = true ↔ f.definition.readonly = true ∧ f.Recorded name) (m : Bool) :
    g.isReadOnly m = f.isReadOnly m ↔
      (f.definition.readonly = true → (f.assigned = true ↔ f.Recorded name)) ∨
        (f.definition.mutable = false ∧ m = false) := by
  rw [isReadOnly, isReadOnly, hd]
  cases hr : f.definition.readonly with
  | false => simp
  | true =>
    have hmark : g.assigned = f.assigned ↔ (f.assigned = true ↔ f.Recorded name) := by
      rw [Bool.eq_iff_iff, hg, and_iff_right hr]
      exact Iff.comm
    rw [Bool.true_and, Bool.true_and, imp_iff_right rfl, ← hmark]
    cases f.definition.mutable <;> cases m <;> simp

end Field

namespace Engine

section

variable [Predicates Artifact] {e : Engine} {a r : Artifact}

/-- The handles of an artifact: the one that adding it gives, and those that are fetched from an
engine in which its bag is stored. -/
inductive HandsOut (e : Engine) (a : Artifact) : Artifact → Prop
  | add {before : Engine} {r : Artifact} : before.add a = (e, .ok r) → HandsOut e a r
  | get {r : Artifact} : e.store.find? a.id = some (.ofArtifact a) → e.get a.id = .ok r →
      HandsOut e a r

lemma HandsOut.fetched (h : e.HandsOut a r) :
    e.store.find? a.id = some (.ofArtifact a) ∧ e.get a.id = .ok r := by
  cases h with
  | get hs hr => exact ⟨hs, hr⟩
  | @add before _ h =>
    rw [add_eq] at h
    split at h
    · cases h
    · have hw : (before.written (.ofArtifact a)).1 = e := congrArg Prod.fst h
      have hr : (before.written (.ofArtifact a)).2 = .ok r := congrArg Prod.snd h
      rw [written_result, hw, Bag.ofArtifact_id] at hr
      have hfind := Store.find?_put_self (.ofArtifact a) before.store
      rw [collapsed_ofArtifact] at hfind
      exact ⟨hw ▸ hfind, hr⟩

lemma HandsOut.read (h : e.HandsOut a r) : ∃ deps, a.StandIn deps ∧
    ofBag e.catalog { Bag.ofArtifact a with dependencies := deps } = .ok r := by
  obtain ⟨hs, hr⟩ := h.fetched
  rw [get_eq] at hr
  obtain ⟨y, hy, hread⟩ := Outcome.bind_eq_ok.1 hr
  rw [Outcome.mapError_eq_ok, Store.fetch, hs] at hy
  obtain ⟨deps, rfl, hdeps⟩ := standIn_expansion hy
  exact ⟨deps, hdeps, hread⟩

variable [ArtifactPredicates]

/-- What may be written to the handle of an artifact, if the handle shows what the artifact does. -/
theorem writable_handedOut (hp : Predicates.Respectful) (hq : ArtifactPredicates.Discreet)
    (hc : e.catalog.Registered) {t : ArtifactType} (ht : t ∈ e.catalog.types) (ha : a.Coherent t)
    (hr : e.HandsOut a r) (hshown : ∀ name, r.shown name = a.shown name) :
    e.get a.id = .ok r ∧
    (∀ name, r.isReadOnly name = a.isReadOnly name ↔ a.Evident name ∨ a.Frozen name) ∧
    (∀ w : Write, r.isReadOnly w.name = a.isReadOnly w.name → r.answers w = a.answers w) ∧
    (∀ writes : List Write, (∀ w ∈ writes, a.Evident w.name) → r.replies writes = a.replies writes) ∧
    (a.Storable → ∀ name, a.Evident name ↔ ∀ f, a.field? name = some f →
      f.definition.readonly = true → (f.assigned = true ↔ f.value?.isSome = true)) := by
  have hd := hc.declared t ht
  obtain ⟨deps, hdeps, hread⟩ := hr.read
  obtain ⟨hheader, htype, hdefinitions, hassigned⟩ := ha.assigned_ofBag hc ht hdeps hread
  have hsorted : Dict.Sorted a.definitions := by
    rw [show a.definitions = t.attributes from ha.definitions]
    exact hd.attributes.1
  have hsettled : r.settled = a.settled :=
    settled_ext hheader htype hsorted hdefinitions hshown
  have htwin : r.Twin (fun name => a.Evident name) a := by
    refine ⟨hsettled, fun name hname f hf g hg hro => ?_⟩
    obtain ⟨g', hg', _, hmark⟩ := hassigned name f hf
    obtain rfl : g = g' := Option.some.inj (hg.symm.trans hg')
    rw [Bool.eq_iff_iff, hmark, hname f hf hro, and_iff_right hro]
  refine ⟨hr.fetched.2, fun name => ?_, fun w => answers_eq hp hq hsettled,
    fun writes => htwin.replies_eq hp hq, fun hs name => ?_⟩
  · cases hf : a.field? name with
    | none =>
      have hnone : r.field? name = none := by
        rw [Option.eq_none_iff_forall_ne_some]
        intro g hg
        obtain ⟨f, hf', _⟩ := exists_agreeing hsettled.symm hg
        rw [hf] at hf'
        cases hf'
      simp [isReadOnly, hf, hnone, Evident]
    | some f =>
      obtain ⟨g, hg, hgd, hmark⟩ := hassigned name f hf
      rw [isReadOnly_of_lookup hg, isReadOnly_of_lookup hf, htwin.isMutable_eq hq,
        Field.isReadOnly_eq_iff hgd hmark]
      simp [Evident, Frozen, hf]
  · have hsound : a.Sound t := ⟨hd, ha, hs⟩
    exact forall₂_congr fun f hf => forall_congr' fun _ => by rw [hsound.recorded_iff hf]

end

namespace Sample

open Artifact.Sample (badge motto stamps stamp)

attribute [local instance] Predicates.parityAndSize ArtifactPredicates.owned

lemma discreet_owned : ArtifactPredicates.Discreet := by
  intro _ a b h
  have howner := congrArg (fun x : Artifact => x.owner.isSome) h
  rw [settled_eq, settled_eq] at howner
  exact howner

def badges : Engine :=
  ((fresh.registerType badge).toOption.get rfl).1

def badgeType : ArtifactType :=
  ((fresh.registerType badge).toOption.get rfl).2

lemma registered_badges : badges.catalog.Registered := by
  have hbadge : badgeType.Declared := by
    refine .declare (by simp [settledRule, badge]) (fun e he => ?_)
      (show (fresh.settledRule badge).declare = .ok badgeType from rfl)
    simp only [settledRule, badge] at he
    rcases List.mem_cons.1 he with rfl | he
    · exact .facet (.default (.string "none")) (Definition.ordered_atom rfl nofun)
        (.facet .readonly trivial (.scalar .string))
    · obtain rfl := List.mem_singleton.1 he
      exact .facet .readonly trivial (.list (.scalar .string))
  exact .register .empty hbadge rfl

def unassigned : Artifact :=
  (badges.create "Badge" none "b" "badge" "1.0.0" ⟨0, 0⟩).toOption.get rfl

def stamped : Artifact :=
  (unassigned.set "stamps" (some stamp)).toOption.get rfl

def sealed : Artifact :=
  { stamped with fields :=
      [("motto", ⟨motto, some (.string "none"), true⟩), ("stamps", ⟨stamps, some stamp, true⟩)] }

def storing : Engine :=
  { badges with store := badges.store.put (.ofArtifact stamped) }

lemma add_stamped : badges.add stamped = (storing, .ok sealed) := by
  have hadd : badges.add stamped = badges.written (.ofArtifact stamped) := rfl
  rw [hadd, written_leaf (a := sealed) rfl rfl]
  rfl

lemma shown_sealed (name : String) : sealed.shown name = stamped.shown name := by
  rw [shown_settled, shown_settled]
  rfl

lemma written_stamped : stamped.Written badgeType := by
  have hu : unassigned.Written badgeType :=
    .create (show Artifact.create badgeType "b" "badge" "1.0.0" ⟨0, 0⟩ = .ok unassigned from rfl)
  refine .set hu (fun w hw => ?_)
    (show unassigned.set "stamps" (some stamp) = .ok stamped from rfl)
  obtain rfl := Option.some.inj hw
  refine Definition.ordered_list fun v hv => ?_
  obtain rfl := List.mem_singleton.1 hv
  exact Definition.ordered_atom rfl nofun

lemma evident_stamps : stamped.Evident "stamps" := by
  intro f hf _
  obtain rfl := Option.some.inj hf
  exact iff_of_true rfl ⟨List.cons_ne_nil _ _, stamp, rfl⟩

lemma not_evident_motto : ¬ stamped.Evident "motto" := by
  intro h
  have hmotto := h ⟨motto, some (.string "none"), false⟩ rfl rfl
  exact nomatch hmotto.2 ⟨List.cons_ne_nil _ _, .string "none", rfl⟩

def restamp : List Write :=
  [.set "stamps" none, .list "stamps" [.clear, .append (.string "south")]]

theorem writable_sealed : Predicates.Respectful ∧ ArtifactPredicates.Discreet ∧
    storing.catalog.Registered ∧ badgeType ∈ storing.catalog.types ∧
    stamped.Coherent badgeType ∧ storing.HandsOut stamped sealed ∧
    (∀ name, sealed.shown name = stamped.shown name) ∧
    sealed.isReadOnly "stamps" = stamped.isReadOnly "stamps" ∧
    sealed.replies restamp = stamped.replies restamp ∧
    sealed.isReadOnly "motto" ≠ stamped.isReadOnly "motto" := by
  have hp := Predicates.respectful_parityAndSize
  have hc : storing.catalog.Registered := registered_badges
  have ht : badgeType ∈ storing.catalog.types := List.mem_singleton_self _
  have ha := written_stamped.coherent (hc.declared badgeType ht)
  have hr : storing.HandsOut stamped sealed := .add add_stamped
  obtain ⟨_, hstatus, _, hreplies, _⟩ :=
    writable_handedOut hp discreet_owned hc ht ha hr shown_sealed
  refine ⟨hp, discreet_owned, hc, ht, ha, hr, shown_sealed,
    (hstatus "stamps").2 (Or.inl evident_stamps), hreplies restamp fun w hm => ?_, fun hmotto => ?_⟩
  · simp only [restamp, List.mem_cons, List.not_mem_nil, or_false] at hm
    rcases hm with rfl | rfl <;> exact evident_stamps
  · rcases (hstatus "motto").1 hmotto with h | ⟨f, hf, hm, _⟩
    · exact not_evident_motto h
    · obtain rfl := Option.some.inj hf
      cases hm

/-- A motto that only shows its default can be assigned, but not on the handle of its artifact. -/
theorem motto_sealed : badges.catalog.Registered ∧ badgeType ∈ badges.catalog.types ∧
    stamped.Written badgeType ∧ badges.add stamped = (storing, .ok sealed) ∧
    storing.get "b" = .ok sealed ∧ (∀ name, sealed.shown name = stamped.shown name) ∧
    stamped.isReadOnly "motto" = false ∧ sealed.isReadOnly "motto" = true ∧
    stamped.answers (.set "motto" (some (.string "onward"))) = [true] ∧
    sealed.answers (.set "motto" (some (.string "onward"))) = [false] :=
  ⟨registered_badges, List.mem_singleton_self _, written_stamped, add_stamped,
    (HandsOut.add add_stamped).fetched.2, shown_sealed, rfl, rfl, rfl, rfl⟩

end Sample

end Engine

end TypedArtifacts
