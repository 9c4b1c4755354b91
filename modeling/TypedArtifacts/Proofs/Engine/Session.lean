import TypedArtifacts.Proofs.Artifact.Decoded
import TypedArtifacts.Proofs.Engine.Call
import TypedArtifacts.Proofs.Patch

namespace TypedArtifacts

namespace Engine

variable [Predicates Artifact]

lemma header_get {e : Engine} {id : String} {a : Artifact} (h : e.get id = .ok a) :
    ∃ b, e.store.find? id = some b ∧ a.toHeader = b.toHeader := by
  rw [get_eq, Outcome.bind_eq_ok] at h
  obtain ⟨c, hc, h⟩ := h
  rw [Outcome.mapError_eq_ok, Store.fetch] at hc
  cases hb : e.store.find? id with
  | none =>
    rw [hb] at hc
    cases hc
  | some b =>
    rw [hb] at hc
    exact ⟨b, rfl, (Artifact.header_ofBag h).trans (Bag.header_expandAmong hc)⟩

variable [ArtifactPredicates]

lemma writes_patch {e : Engine} {now : Instant} {id : String} {operations : List Patch.Operation}
    {b : Bag} (h : e.writes? (.patch now id operations) = some b) :
    ∃ stored, e.store.find? id = some stored ∧ b.id = stored.id ∧ b.state = stored.state := by
  cases hg : e.get id with
  | error fault =>
    simp [writes?, hg] at h
  | ok a =>
    obtain ⟨stored, hs, ha⟩ := header_get hg
    have hp := (Draft.releases_patch e.links e.settings.allowedPatches operations
      ⟨a, e.storage⟩).header
    simp only [writes?, hg, patchArtifact, write] at h
    rcases hd : Draft.patch e.links e.settings.allowedPatches operations ⟨a, e.storage⟩ with ⟨d, r⟩
    rw [hd] at h hp
    cases r with
    | error fault => cases h
    | ok _ =>
      simp only [saved?, Option.map_eq_some_iff] at h
      obtain ⟨_, _, rfl⟩ := h
      have hd : d.artifact.toHeader = stored.toHeader := hp.trans ha
      have hid : d.artifact.id = stored.id := congrArg Header.id hd
      have hstate : d.artifact.state = stored.state := congrArg Header.state hd
      exact ⟨stored, hs, hid, hstate⟩

end Engine

def Lifecycle.Toggles (s t : Lifecycle) : Prop :=
  s = .active ∧ t = .deactivated ∨ s = .deactivated ∧ t = .active

namespace Call

def Allows {α : Type} (c : Call α) (s t : Lifecycle) : Prop :=
  s = t ∨ s.Toggles t ∨
    match c with
    | .publish _ _ => s = .creating ∧ t = .active
    | .remove _ _ => t = .deleted
    | _ => False

lemma allows_deleted {α : Type} {c : Call α} {t : Lifecycle} (h : c.Allows .deleted t) :
    t = .deleted := by
  rcases h with h | (⟨h, _⟩ | ⟨h, _⟩) | h
  · exact h.symm
  · cases h
  · cases h
  · cases c with
    | publish now a => cases h.1
    | remove now a => exact h
    | _ => cases h

def saves? : Call Artifact → Option (String × Lifecycle)
  | .save _ a => some (a.id, a.state)
  | .deactivate _ a => if a.state = .active then some (a.id, .deactivated) else none
  | .reactivate _ a => if a.state = .deactivated then some (a.id, .active) else none
  | _ => none

def Fits (c : Call Artifact) (s : Store) : Prop :=
  ∀ x ∈ c.saves?, ∀ stored, s.find? x.1 = some stored →
    stored.state = x.2 ∨ stored.state.Toggles x.2

lemma fits_of_saves_none {c : Call Artifact} (h : c.saves? = none) (s : Store) : c.Fits s := by
  intro x hx
  rw [h] at hx
  cases hx

def resolve? (handles : List Artifact) : Call ℕ → Option (Call Artifact)
  | .add i => handles[i]?.map .add
  | .save now i => handles[i]?.map (.save now)
  | .publish now i => handles[i]?.map (.publish now)
  | .deactivate now i => handles[i]?.map (.deactivate now)
  | .reactivate now i => handles[i]?.map (.reactivate now)
  | .remove now i => handles[i]?.map (.remove now)
  | .patch now id operations => some (.patch now id operations)

end Call

inductive Action where
  | create (typeName : String) (typeVersion : Option String) (id name version : String)
    (now : Instant)
  | get (id : String)
  | list (q : Query)
  | setAttribute (handle : ℕ) (name : String) (input : Input)
  | call (c : Call ℕ)

structure Session where
  engine : Engine
  handles : List Artifact := []

namespace Session

variable [Predicates Artifact] [ArtifactPredicates]

def step (s : Session) : Action → Session
  | .create typeName typeVersion id name version now =>
    { s with handles := s.handles ++
        (s.engine.create typeName typeVersion id name version now).toOption.toList }
  | .get id => { s with handles := s.handles ++ (s.engine.get id).toOption.toList }
  | .list q => { s with handles := s.handles ++ (s.engine.list q).toOption.getD [] }
  | .setAttribute i name input =>
    match s.handles[i]? with
    | none => s
    | some a =>
      let (e, b, _) := s.engine.assign name input a
      ⟨e, s.handles ++ [b]⟩
  | .call c =>
    match c.resolve? s.handles with
    | none => s
    | some c =>
      let (e, r) := s.engine.call c
      ⟨e, s.handles ++ (r.toOption.bind id).toList⟩

def Always (P : Session → Action → Prop) : Session → List Action → Prop
  | _, [] => True
  | s, a :: as => P s a ∧ Always P (s.step a) as

def state? (s : Session) (id : String) : Option Lifecycle :=
  (s.engine.store.find? id).map (·.state)

def call? (s : Session) : Action → Option (Call Artifact)
  | .call c => c.resolve? s.handles
  | _ => none

def Lawful (s : Session) (action : Action) : Prop :=
  ∀ id before, s.state? id = some before → ∃ after, (s.step action).state? id = some after ∧
    (before = after ∨ ∃ c ∈ s.call? action, c.Allows before after)

def Current (s : Session) (action : Action) : Prop :=
  ∀ c ∈ s.call? action, c.Fits s.engine.store

def writes? (s : Session) (action : Action) : Option Bag :=
  (s.call? action).bind s.engine.writes?

lemma step_store (s : Session) (action : Action) :
    (s.step action).engine.store = (s.writes? action).elim s.engine.store (s.engine.store.put ·) := by
  cases action with
  | call c =>
    simp only [step, writes?, call?]
    cases c.resolve? s.handles with
    | none => rfl
    | some c => exact Engine.call_store s.engine c
  | setAttribute i name input =>
    simp only [step, writes?, call?]
    cases s.handles[i]? with
    | none => rfl
    | some a => rfl
  | _ => rfl

lemma keyed_step {s : Session} (h : s.engine.store.Keyed) (action : Action) :
    (s.step action).engine.store.Keyed := by
  rw [step_store]
  cases s.writes? action with
  | none => exact h
  | some b => exact h.put b

lemma state?_step (s : Session) (action : Action) (id : String) : (s.step action).state? id =
    match s.writes? action with
    | some b => if id = b.id then some b.state else s.state? id
    | none => s.state? id := by
  rw [state?, step_store]
  cases s.writes? action with
  | none => rfl
  | some b =>
    rw [Option.elim_some, Store.find?_put]
    dsimp only
    split
    · rfl
    · rfl

end Session

namespace Engine

variable [Predicates Artifact] [ArtifactPredicates]

omit [Predicates Artifact] [ArtifactPredicates] in
lemma allows_saved {e : Engine} {now : Instant} {a : Artifact} {c : Call Artifact} {b stored : Bag}
    (hc : ∀ s t, c.Allows s t ↔ s = t ∨ s.Toggles t) (hs : c.saves? = some (a.id, a.state))
    (hb : e.saved? now a = some b) (hstored : e.store.find? b.id = some stored) :
    c.Allows stored.state b.state ↔ c.Fits e.store := by
  obtain ⟨_, _, rfl⟩ := Option.map_eq_some_iff.1 hb
  have hfound : e.store.find? a.id = some stored := hstored
  simp [hc, Call.Fits, hs, hfound]

lemma allows_iff {e : Engine} (he : e.store.Keyed) {c : Call Artifact} {b stored : Bag}
    (hb : e.writes? c = some b) (hstored : e.store.find? b.id = some stored) :
    c.Allows stored.state b.state ↔ c.Fits e.store := by
  have hplain : ∀ s t : Lifecycle, (s = t ∨ s.Toggles t ∨ False) ↔ s = t ∨ s.Toggles t := by simp
  cases c with
  | add a =>
    simp only [writes?] at hb
    split at hb
    · cases hb
    · rename_i hn
      obtain rfl := Option.some.inj hb
      exact absurd (Option.isSome_of_eq_some hstored) hn
  | save now a => exact allows_saved hplain rfl hb hstored
  | deactivate now a =>
    simp only [writes?] at hb
    split at hb
    · rename_i ha
      refine allows_saved hplain ?_ hb hstored
      exact if_pos ha
    · cases hb
  | reactivate now a =>
    simp only [writes?] at hb
    split at hb
    · rename_i ha
      refine allows_saved hplain ?_ hb hstored
      exact if_pos ha
    · cases hb
  | publish now a =>
    refine iff_of_true (Or.inr (Or.inr ?_)) (Call.fits_of_saves_none rfl _)
    simp only [writes?] at hb
    split at hb
    · rename_i found _ hfound
      split at hb
      · rename_i hcreating
        obtain rfl := Option.some.inj hb
        obtain rfl := Option.some.inj (hfound.symm.trans hstored)
        exact ⟨hcreating, rfl⟩
      · cases hb
    · cases hb
  | remove now a =>
    refine iff_of_true (Or.inr (Or.inr ?_)) (Call.fits_of_saves_none rfl _)
    simp only [writes?] at hb
    split at hb
    · obtain ⟨_, _, rfl⟩ := Option.map_eq_some_iff.1 hb
      rfl
    · cases hb
  | patch now id operations =>
    obtain ⟨found, hfound, hid, hstate⟩ := writes_patch hb
    rw [hid, he id found hfound, hfound] at hstored
    obtain rfl := Option.some.inj hstored
    exact iff_of_true (Or.inl hstate.symm) (Call.fits_of_saves_none rfl _)

lemma written_of_saves {e : Engine} {c : Call Artifact} {x : String × Lifecycle} {stored : Bag}
    (hx : x ∈ c.saves?) (hstored : e.store.find? x.1 = some stored) :
    ∃ b, e.writes? c = some b ∧ b.id = x.1 := by
  have hsaved : ∀ now a, a.id = x.1 → ∃ b, e.saved? now a = some b ∧ b.id = x.1 := by
    intro now a ha
    exact ⟨{ Bag.ofArtifact a with updatedAt := now }, by rw [saved?, ha, hstored]; rfl, ha⟩
  cases c with
  | save now a =>
    obtain rfl := Option.some.inj hx
    exact hsaved now a rfl
  | deactivate now a =>
    simp only [Call.saves?, Option.mem_def] at hx
    split at hx
    · rename_i ha
      obtain rfl := Option.some.inj hx
      simpa only [writes?, if_pos ha] using hsaved now { a with state := .deactivated } rfl
    · cases hx
  | reactivate now a =>
    simp only [Call.saves?, Option.mem_def] at hx
    split at hx
    · rename_i ha
      obtain rfl := Option.some.inj hx
      simpa only [writes?, if_pos ha] using hsaved now { a with state := .active } rfl
    · cases hx
  | _ => cases hx

end Engine

namespace Session

section

variable [Predicates Artifact] [ArtifactPredicates]

lemma writes?_eq_some {s : Session} {action : Action} {b : Bag} (h : s.writes? action = some b) :
    ∃ c, s.call? action = some c ∧ s.engine.writes? c = some b :=
  Option.bind_eq_some_iff.1 h

lemma lawful_of_kept {s : Session} {action : Action}
    (h : ∀ id before, s.state? id = some before → (s.step action).state? id = some before) :
    s.Lawful action :=
  fun id before hb => ⟨before, h id before hb, Or.inl rfl⟩

lemma lawful_of_refused {s : Session} {action : Action} (hw : s.writes? action = none) :
    s.Lawful action := by
  apply lawful_of_kept
  intro id before hb
  rw [state?_step, hw, hb]

lemma lawful_of_new {s : Session} {action : Action} {b : Bag} (hw : s.writes? action = some b)
    (hs : s.engine.store.find? b.id = none) : s.Lawful action := by
  apply lawful_of_kept
  intro id before hb
  have hne : id ≠ b.id := by
    rintro rfl
    rw [state?, hs] at hb
    cases hb
  rw [state?_step, hw, ← hb]
  exact if_neg hne

lemma current_of_writes {s : Session} {action : Action}
    (h : ∀ b, s.writes? action = some b → s.engine.store.find? b.id = none) :
    s.Current action := by
  intro c hc x hx stored hs
  obtain ⟨b, hb, hid⟩ := Engine.written_of_saves hx hs
  have hw : s.writes? action = some b := by rw [writes?, hc, Option.bind_some, hb]
  have hnone := h b hw
  rw [hid, hs] at hnone
  cases hnone

lemma lawful_iff_allows {s : Session} {action : Action} {c : Call Artifact} {b stored : Bag}
    (hc : s.call? action = some c) (hw : s.writes? action = some b)
    (hs : s.engine.store.find? b.id = some stored) :
    s.Lawful action ↔ c.Allows stored.state b.state := by
  have hstep : ∀ id, (s.step action).state? id =
      if id = b.id then some b.state else s.state? id := fun id => by rw [state?_step, hw]
  have hbefore : s.state? b.id = some stored.state := by rw [state?, hs]; rfl
  constructor
  · intro hl
    obtain ⟨after, ha, hcase⟩ := hl b.id stored.state hbefore
    rw [hstep, if_pos rfl] at ha
    obtain rfl := Option.some.inj ha
    rcases hcase with heq | ⟨c', hc', hallows⟩
    · exact Or.inl heq
    · obtain rfl := Option.some.inj (hc.symm.trans hc')
      exact hallows
  · intro hallows id before hid
    by_cases hne : id = b.id
    · subst hne
      obtain rfl := Option.some.inj (hbefore.symm.trans hid)
      exact ⟨b.state, by rw [hstep, if_pos rfl], Or.inr ⟨c, hc, hallows⟩⟩
    · exact ⟨before, by rw [hstep, if_neg hne, hid], Or.inl rfl⟩

lemma lawful_iff_current {s : Session} (h : s.engine.store.Keyed) (action : Action) :
    s.Lawful action ↔ s.Current action := by
  cases hw : s.writes? action with
  | none =>
    have hcurrent : s.Current action := current_of_writes fun b hb => by rw [hw] at hb; cases hb
    exact iff_of_true (lawful_of_refused hw) hcurrent
  | some b =>
    cases hs : s.engine.store.find? b.id with
    | none =>
      have hcurrent : s.Current action := by
        apply current_of_writes
        intro b' hb'
        obtain rfl := Option.some.inj (hw.symm.trans hb')
        exact hs
      exact iff_of_true (lawful_of_new hw hs) hcurrent
    | some stored =>
      obtain ⟨c, hc, hb⟩ := writes?_eq_some hw
      have hcurrent : s.Current action ↔ c.Fits s.engine.store := by simp [Current, hc]
      rw [hcurrent, ← Engine.allows_iff h hb hs]
      exact lawful_iff_allows hc hw hs

omit [Predicates Artifact] [ArtifactPredicates] in
lemma keyed_of_empty {s : Session} (h : s.engine.store.bags = []) : s.engine.store.Keyed := by
  intro id b hb
  rw [Store.find?, h] at hb
  cases hb

/-- Along a run that starts without artifacts, stored states keep to the lifecycle exactly if no
call saves an outdated state. -/
theorem always_lawful_iff {s : Session} (h : s.engine.store.bags = []) (actions : List Action) :
    Always Lawful s actions ↔ Always Current s actions := by
  -- No later state is empty, but every one keeps bags under their own ids.
  have hk := keyed_of_empty h
  clear h
  induction actions generalizing s with
  | nil => exact Iff.rfl
  | cons action rest ih =>
    exact and_congr (lawful_iff_current hk action) (ih (keyed_step hk action))

lemma always_append {P : Session → Action → Prop} {s : Session} {actions others : List Action} :
    Always P s (actions ++ others) ↔
      Always P s actions ∧ Always P (actions.foldl step s) others := by
  induction actions generalizing s with
  | nil => simp [Always]
  | cons action rest ih => simp only [List.cons_append, Always, ih, List.foldl_cons, and_assoc]

theorem deleted_stays {s : Session} (h : s.engine.store.Keyed) {id : String}
    (hd : s.state? id = some .deleted) {actions : List Action} (hc : Always Current s actions) :
    (actions.foldl step s).state? id = some .deleted := by
  induction actions generalizing s with
  | nil => exact hd
  | cons action rest ih =>
    refine ih (keyed_step h action) ?_ hc.2
    obtain ⟨after, ha, rfl | ⟨c, _, hallows⟩⟩ :=
      (lawful_iff_current h action).2 hc.1 id .deleted hd
    · exact ha
    · rwa [Call.allows_deleted hallows] at ha

end

namespace Sample

open Engine.Sample

attribute [local instance] Predicates.parityAndSize ArtifactPredicates.owned

def published : Artifact :=
  { titled with state := .active, publishedAt := some ⟨1, 0⟩, updatedAt := ⟨1, 0⟩ }

def stored : Engine :=
  { opened with store := opened.store.put (.ofArtifact titled) }

def live : Engine :=
  { stored with store := stored.store.put (.ofArtifact published) }

def life : List Action :=
  [.create "Page" none "a" "first" "1.0.0" ⟨0, 0⟩,
    .setAttribute 0 "title" (.value (some (.string "Emma"))), .call (.add 1),
    .call (.publish ⟨1, 0⟩ 2), .call (.remove ⟨2, 0⟩ 3)]

def revival : Action :=
  .call (.deactivate ⟨3, 0⟩ 3)

def start : Session where
  engine := opened

lemma call_add : opened.call (.add titled) = (stored, .ok (some titled)) := by
  have hadd : opened.add titled = opened.written (.ofArtifact titled) := rfl
  have hw : opened.written (.ofArtifact titled) = (stored, .ok titled) :=
    Engine.written_leaf rfl rfl
  rw [Engine.call, hadd, hw]
  rfl

lemma call_publish : stored.call (.publish ⟨1, 0⟩ titled) = (live, .ok (some published)) := by
  have hpublish : stored.publish ⟨1, 0⟩ titled = stored.written (.ofArtifact published) := rfl
  have hw : stored.written (.ofArtifact published) = (live, .ok published) :=
    Engine.written_leaf rfl rfl
  rw [Engine.call, hpublish, hw]
  rfl

lemma run_life : life.foldl step start =
    ⟨(live.call (.remove ⟨2, 0⟩ published)).1, [untitled, titled, titled, published]⟩ := by
  have hadd : (⟨opened, [untitled, titled]⟩ : Session).step (.call (.add 1)) =
      ⟨stored, [untitled, titled, titled]⟩ := by
    simp only [step, Call.resolve?, List.getElem?_cons_succ, List.getElem?_cons_zero,
      Option.map_some, call_add]
    rfl
  have hpublish : (⟨stored, [untitled, titled, titled]⟩ : Session).step
      (.call (.publish ⟨1, 0⟩ 2)) = ⟨live, [untitled, titled, titled, published]⟩ := by
    simp only [step, Call.resolve?, List.getElem?_cons_succ, List.getElem?_cons_zero,
      Option.map_some, call_publish]
    rfl
  have hstart : life.foldl step start =
      (((⟨opened, [untitled, titled]⟩ : Session).step (.call (.add 1))).step
        (.call (.publish ⟨1, 0⟩ 2))).step (.call (.remove ⟨2, 0⟩ 3)) := rfl
  rw [hstart, hadd, hpublish]
  rfl

theorem always_lawful_life : Always Lawful start life := by
  have hcall : ∀ (s : Session) (c : Call ℕ), (∀ d ∈ c.resolve? s.handles, d.saves? = none) →
      s.Current (.call c) := fun s c h d hd => Call.fits_of_saves_none (h d hd) _
  refine (always_lawful_iff rfl life).2
    ⟨nofun, nofun, hcall _ _ ?_, hcall _ _ ?_, hcall _ _ ?_, trivial⟩
  all_goals
    intro d hd
    simp only [Call.resolve?, Option.mem_def, Option.map_eq_some_iff] at hd
    obtain ⟨a, _, rfl⟩ := hd
    rfl

/-- The handle from before the removal brings a deleted page back. -/
theorem revived : (life.foldl step start).state? "a" = some .deleted ∧
    ((life.foldl step start).step revival).state? "a" = some .deactivated ∧
    ¬ Always Lawful start (life ++ [revival]) := by
  have hdeleted : (life.foldl step start).state? "a" = some .deleted := by
    rw [run_life]
    rfl
  have hback : ((life.foldl step start).step revival).state? "a" = some .deactivated := by
    rw [run_life]
    rfl
  refine ⟨hdeleted, hback, fun h => ?_⟩
  obtain ⟨hl, _⟩ := (always_append.1 h).2
  obtain ⟨after, ha, heq | ⟨c, _, hallows⟩⟩ := hl "a" .deleted hdeleted
  · rw [hback, ← heq] at ha
    cases ha
  · rw [hback, Call.allows_deleted hallows] at ha
    cases ha

end Sample

end Session

end TypedArtifacts
