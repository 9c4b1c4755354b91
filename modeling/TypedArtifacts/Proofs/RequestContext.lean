import TypedArtifacts.Proofs.Artifact.Respect
import TypedArtifacts.Engine

/-! Guards of request contexts form a stack. What they show is determined by those that are open, and a
guard that is dropped leaves the context as it found it, whatever was opened and dropped in between. -/

namespace TypedArtifacts.RequestContext

def Opening.artifact? : Opening → Option String
  | .fresh _ => none
  | .request _ _ => none
  | .artifact id => some id

structure Guard where
  opening : Opening
  scope : Scope
  issued : Option String

def Guard.request? (g : Guard) : Option (String × Option String) :=
  match g.opening with
  | .fresh owner => g.issued.map (·, owner)
  | .request id owner => some (id, owner)
  | .artifact _ => none

/-- The innermost request guard tells the request and its owner, and outside any, the outermost guard
tells the request that was issued for it, which has no owner. -/
def requestOf (guards : List Guard) : Option (String × Option String) :=
  (guards.findSome? Guard.request?).or (guards.getLast?.bind fun g => g.issued.map (·, none))

def shown : List Guard → Option RequestContext
  | [] => none
  | g :: guards => (requestOf (g :: guards)).map fun r => ⟨r.1, r.2, g.opening.artifact?⟩

structure Thread where
  ambient : Ambient := {}
  guards : List Guard := []
  engine : Engine

inductive Event where
  | enter (o : Opening)
  | leave
  | work (f : Engine → Engine)

namespace Thread

def enter (o : Opening) (t : Thread) : Thread :=
  let (ambient, scope) := t.ambient.enter o
  let issued := if ambient.issued = t.ambient.issued then none else some t.ambient.issue.2
  { t with ambient := ambient, guards := ⟨o, scope, issued⟩ :: t.guards }

def leave (t : Thread) : Thread :=
  match t.guards with
  | [] => t
  | g :: guards => { t with ambient := t.ambient.leave g.scope, guards := guards }

def step (t : Thread) : Event → Thread
  | .enter o => t.enter o
  | .leave => t.leave
  | .work f => { t with engine := f t.engine }

def run (t : Thread) (events : List Event) : Thread :=
  events.foldl step t

end Thread

inductive Nested : List Event → Prop
  | done : Nested []
  | work (f : Engine → Engine) {rest : List Event} : Nested rest → Nested (.work f :: rest)
  | scope (o : Opening) {body rest : List Event} : Nested body → Nested rest →
      Nested (.enter o :: (body ++ .leave :: rest))

variable {t : Thread} {o : Opening} {g : Guard} {gs guards : List Guard} {events body rest : List Event}

namespace Thread

lemma run_cons (t : Thread) (e : Event) (events : List Event) :
    t.run (e :: events) = (t.step e).run events := rfl

lemma run_append (t : Thread) (events rest : List Event) :
    t.run (events ++ rest) = (t.run events).run rest :=
  List.foldl_append

lemma leave_enter (o : Opening) (t u : Thread) (hguards : u.guards = (t.enter o).guards) :
    u.leave.ambient.current = t.ambient.current ∧ u.leave.guards = t.guards := by
  have hleave : u.leave = { u with ambient := u.ambient.leave (t.ambient.enter o).2, guards := t.guards } := by
    rw [leave, hguards]
    rfl
  rw [hleave]
  exact ⟨Ambient.previous_enter o t.ambient, rfl⟩

lemma run_nested (h : Nested events) (t : Thread) :
    (t.run events).ambient.current = t.ambient.current ∧ (t.run events).guards = t.guards := by
  induction h generalizing t with
  | done => exact ⟨rfl, rfl⟩
  | work f _ ih => exact ih { t with engine := f t.engine }
  | scope o _ _ ihbody ihrest =>
    rw [run_cons, run_append, run_cons]
    obtain ⟨hcurrent, hguards⟩ := leave_enter o t _ (ihbody (t.enter o)).2
    obtain ⟨hrest, hrest'⟩ := ihrest ((t.enter o).run _).leave
    exact ⟨hrest.trans hcurrent, hrest'.trans hguards⟩

end Thread

def requestName (n : ℕ) : String :=
  "\x7br" ++ toString n ++ "\x7d"

lemma requestName_injective : Function.Injective requestName := by
  intro m n h
  have hdigits : Nat.toDigits 10 m = Nat.toDigits 10 n := by
    simpa [requestName, Nat.toString_eq_ofList_toDigits] using congrArg String.toList h
  rw [← Nat.ofDigitChars_ten_toDigits (n := m), hdigits, Nat.ofDigitChars_ten_toDigits]

lemma requestOf_request {r : String × Option String} (h : g.request? = some r) :
    requestOf (g :: gs) = some r := by
  simp [requestOf, h]

lemma requestOf_artifact {id : String} (h : g.opening = .artifact id) (hne : gs ≠ []) :
    requestOf (g :: gs) = requestOf gs := by
  have hnone : g.request? = none := by simp [Guard.request?, h]
  simp [requestOf, hnone, List.getLast?_cons, List.getLast?_eq_some_getLast hne]

namespace Thread

structure Stacked (t : Thread) : Prop where
  current : t.ambient.current = shown t.guards
  previous : ∀ g gs, g :: gs <:+ t.guards → g.scope.previous = shown gs
  known : ∀ g gs, g :: gs <:+ t.guards → (shown (g :: gs)).isSome = true
  issued : ∀ id ∈ t.guards.filterMap Guard.issued, ∃ n ≤ t.ambient.issued, id = requestName n
  nodup : (t.guards.filterMap Guard.issued).Nodup

lemma stacked_start (hguards : t.guards = []) (hcurrent : t.ambient.current = none) : t.Stacked where
  current := by rw [hguards, hcurrent]; rfl
  previous := by simp [hguards]
  known := by simp [hguards]
  issued := by simp [hguards]
  nodup := by simp [hguards]

lemma Stacked.leave (h : t.Stacked) : t.leave.Stacked := by
  unfold Thread.leave
  split
  · exact h
  · rename_i g gs hguards
    have htail : gs <:+ t.guards := hguards ▸ List.suffix_cons g gs
    exact {
      current := h.previous g gs (hguards ▸ List.suffix_rfl)
      previous := fun g' gs' hsuffix => h.previous g' gs' (hsuffix.trans htail)
      known := fun g' gs' hsuffix => h.known g' gs' (hsuffix.trans htail)
      issued := fun id hid => h.issued id ((htail.sublist.filterMap _).subset hid)
      nodup := h.nodup.sublist (htail.sublist.filterMap _) }

lemma enter_cases (o : Opening) (h : t.Stacked) : ∃ g : Guard, (t.enter o).guards = g :: t.guards ∧
    g.opening = o ∧ g.scope.previous = t.ambient.current ∧
    (t.enter o).ambient.current = shown (g :: t.guards) ∧ (shown (g :: t.guards)).isSome = true ∧
    ((t.enter o).ambient.issued = t.ambient.issued ∧ g.issued = none ∨
      (t.enter o).ambient.issued = t.ambient.issued + 1 ∧
        g.issued = some (requestName (t.ambient.issued + 1))) := by
  obtain ⟨⟨current, n⟩, guards, engine⟩ := t
  have hcurrent : current = shown guards := h.current
  cases o with
  | fresh owner =>
    let g : Guard := ⟨.fresh owner, ⟨current⟩, some (requestName (n + 1))⟩
    have hshown : shown (g :: guards) = some ⟨requestName (n + 1), owner, none⟩ := by
      rw [shown, requestOf_request (r := (requestName (n + 1), owner)) rfl]
      rfl
    refine ⟨g, ?_, rfl, rfl, hshown.symm, hshown ▸ rfl, .inr ⟨rfl, rfl⟩⟩
    simp [Thread.enter, Ambient.enter, Ambient.issue, Ambient.replace, g, requestName]
  | request id owner =>
    let g : Guard := ⟨.request id owner, ⟨current⟩, none⟩
    have hshown : shown (g :: guards) = some ⟨id, owner, none⟩ := by
      rw [shown, requestOf_request (r := (id, owner)) rfl]
      rfl
    refine ⟨g, ?_, rfl, rfl, hshown.symm, hshown ▸ rfl, .inl ⟨rfl, rfl⟩⟩
    simp [Thread.enter, Ambient.enter, Ambient.replace, g]
  | artifact id =>
    cases guards with
    | nil =>
      -- Without a guard beneath there is no context, so that a request id is issued.
      obtain rfl : current = none := hcurrent
      let g : Guard := ⟨.artifact id, ⟨none⟩, some (requestName (n + 1))⟩
      refine ⟨g, ?_, rfl, rfl, rfl, rfl, .inr ⟨rfl, rfl⟩⟩
      simp [Thread.enter, Ambient.enter, Ambient.issue, Ambient.replace, g, requestName]
    | cons top guards =>
      -- The context is there and lends its request, which is that of the guards beneath.
      obtain ⟨context, hcontext⟩ := Option.isSome_iff_exists.1 (h.known top guards List.suffix_rfl)
      obtain ⟨r, hr, rfl⟩ := Option.map_eq_some_iff.1 hcontext
      obtain rfl : current = some ⟨r.1, r.2, top.opening.artifact?⟩ := hcurrent.trans hcontext
      let g : Guard := ⟨.artifact id, ⟨some ⟨r.1, r.2, top.opening.artifact?⟩⟩, none⟩
      have hshown : shown (g :: top :: guards) = some ⟨r.1, r.2, some id⟩ := by
        rw [shown, requestOf_artifact (show g.opening = .artifact id from rfl) (List.cons_ne_nil _ _), hr]
        rfl
      refine ⟨g, ?_, rfl, rfl, hshown.symm, hshown ▸ rfl, .inl ⟨rfl, rfl⟩⟩
      simp [Thread.enter, Ambient.enter, Ambient.replace, g]

lemma Stacked.enter (h : t.Stacked) (o : Opening) : (t.enter o).Stacked := by
  obtain ⟨g, hguards, -, hprevious, hcurrent, hknown, hissued⟩ := enter_cases o h
  have hcases : ∀ {g' gs'}, g' :: gs' <:+ (t.enter o).guards →
      g' = g ∧ gs' = t.guards ∨ g' :: gs' <:+ t.guards := by
    intro g' gs' hsuffix
    rw [hguards] at hsuffix
    exact (List.suffix_cons_iff.1 hsuffix).imp_left List.cons.inj
  refine ⟨hguards ▸ hcurrent, fun g' gs' hsuffix => ?_, fun g' gs' hsuffix => ?_, ?_, ?_⟩
  · rcases hcases hsuffix with ⟨rfl, rfl⟩ | hold
    · rw [hprevious, h.current]
    · exact h.previous g' gs' hold
  · rcases hcases hsuffix with ⟨rfl, rfl⟩ | hold
    · exact hknown
    · exact h.known g' gs' hold
  · rw [hguards]
    rcases hissued with ⟨hsame, hnone⟩ | ⟨hnext, hsome⟩
    · rw [List.filterMap_cons_none hnone, hsame]
      exact h.issued
    · rw [List.filterMap_cons_some hsome, hnext, List.forall_mem_cons]
      refine ⟨⟨_, le_rfl, rfl⟩, fun id hid => ?_⟩
      obtain ⟨n, hn, rfl⟩ := h.issued id hid
      exact ⟨n, Nat.le_succ_of_le hn, rfl⟩
  · rw [hguards]
    rcases hissued with ⟨-, hnone⟩ | ⟨-, hsome⟩
    · rw [List.filterMap_cons_none hnone]
      exact h.nodup
    · rw [List.filterMap_cons_some hsome, List.nodup_cons]
      refine ⟨fun hid => ?_, h.nodup⟩
      obtain ⟨n, hn, heq⟩ := h.issued _ hid
      have := requestName_injective heq
      omega

lemma Stacked.step (h : t.Stacked) (e : Event) : (t.step e).Stacked := by
  cases e with
  | enter o => exact h.enter o
  | leave => exact h.leave
  | work f => exact ⟨h.current, h.previous, h.known, h.issued, h.nodup⟩

lemma Stacked.run (h : t.Stacked) (events : List Event) : (t.run events).Stacked := by
  induction events generalizing t with
  | nil => exact h
  | cons e events ih => exact ih (h.step e)

end Thread

section

variable [ArtifactPredicates] [Predicates Artifact]

def patching (now : Instant) (id : String) (operations : List Patch.Operation) : List Event :=
  [.enter (.artifact id), .work fun e => (e.patch now id operations).1, .leave]

lemma nested_patching (now : Instant) (id : String) (operations : List Patch.Operation) :
    Nested (patching now id operations) :=
  .scope (.artifact id) (.work _ .done) .done

lemma run_patching (now : Instant) (id : String) (operations : List Patch.Operation) (t : Thread) :
    t.run (patching now id operations) = { t with
      ambient := (t.engine.patchScoped now id operations t.ambient).1,
      engine := (t.engine.patchScoped now id operations t.ambient).2.1 } := rfl

/-- After a guard is dropped, with all that was opened later dropped before, the context is the one
before it was created, which includes the guard of a patch, however the patch turns out. On a thread
that begins without a context, the newest guard shows its artifact, if it is for one, with the request
and owner of the innermost request guard, or outside any with the request that was issued for the
outermost guard and no owner. -/
theorem guards_nest :
    (∀ (t : Thread) (o : Opening) (body : List Event), Nested body →
      (t.run (.enter o :: (body ++ [.leave]))).ambient.current = t.ambient.current ∧
      (t.run (.enter o :: (body ++ [.leave]))).guards = t.guards) ∧
    (∀ (t : Thread) (now : Instant) (id : String) (operations : List Patch.Operation),
      Nested (patching now id operations) ∧
      t.run (patching now id operations) = { t with
        ambient := (t.engine.patchScoped now id operations t.ambient).1,
        engine := (t.engine.patchScoped now id operations t.ambient).2.1 }) ∧
    ∀ t : Thread, t.guards = [] → t.ambient.current = none → ∀ events : List Event,
      ((t.run events).guards = [] → (t.run events).ambient.current = none) ∧
      (∀ g gs, (t.run events).guards = g :: gs → ∃ r, requestOf (g :: gs) = some r ∧
        (t.run events).ambient.current = some ⟨r.1, r.2, g.opening.artifact?⟩) ∧
      ((t.run events).guards.filterMap Guard.issued).Nodup := by
  refine ⟨fun t o body hbody => Thread.run_nested (.scope o hbody .done) t,
    fun t now id operations => ⟨nested_patching now id operations, run_patching now id operations t⟩,
    fun t hguards hcurrent events => ?_⟩
  have h := (Thread.stacked_start hguards hcurrent).run events
  refine ⟨fun hnil => ?_, fun g gs hcons => ?_, h.nodup⟩
  · rw [h.current, hnil]
    rfl
  · obtain ⟨context, hcontext⟩ := Option.isSome_iff_exists.1 (h.known g gs (hcons ▸ List.suffix_rfl))
    obtain ⟨r, hr, rfl⟩ := Option.map_eq_some_iff.1 hcontext
    exact ⟨r, hr, by rw [h.current, hcons, hcontext]⟩

end

namespace Sample

attribute [local instance] Predicates.parityAndSize ArtifactPredicates.owned

def idle : Thread where
  engine := { settings := {} }

def opened : List Event :=
  [.enter (.artifact "a"), .enter (.request "q" (some "emma")), .enter (.artifact "b")]

theorem guards_nest_opened :
    idle.guards = [] ∧ idle.ambient.current = none ∧ Nested (patching ⟨1, 0⟩ "c" []) ∧
    (idle.run opened).ambient.current = some ⟨"q", some "emma", some "b"⟩ ∧
    (((idle.run opened).run (.enter (.fresh none) :: (patching ⟨1, 0⟩ "c" [] ++ [.leave]))).ambient.current =
      some ⟨"q", some "emma", some "b"⟩) ∧
    (idle.run [.enter (.artifact "a")]).ambient.current = some ⟨"\x7br1\x7d", none, some "a"⟩ := by
  obtain ⟨hrestored, hpatch, hshown⟩ := guards_nest
  have hnested := (hpatch idle ⟨1, 0⟩ "c" []).1
  obtain ⟨r, hr, hopened⟩ := (hshown idle rfl rfl opened).2.1 _ _ rfl
  obtain ⟨r', hr', houtermost⟩ := (hshown idle rfl rfl [.enter (.artifact "a")]).2.1 _ _ rfl
  obtain rfl := Option.some.inj hr
  obtain rfl := Option.some.inj hr'
  refine ⟨rfl, rfl, hnested, hopened, ?_, houtermost⟩
  exact (hrestored (idle.run opened) (.fresh none) _ hnested).1.trans hopened

end Sample

end TypedArtifacts.RequestContext
