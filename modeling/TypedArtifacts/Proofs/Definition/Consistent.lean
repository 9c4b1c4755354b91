import TypedArtifacts.Definition.Declaration
import TypedArtifacts.Proofs.Definition.Acceptance

namespace TypedArtifacts

variable {ρ : Type}

def Facet.Applies (d : Definition ρ) : Facet ρ → Prop
  | .mutable => d.role ≠ .dependency
  | .pattern source => d.kind.isText = true ∧ Pattern.compile? source ≠ none
  | .limit l => d.kind.admits l = true
  | _ => True

namespace Definition

lemma misuses_restrict {l : Limit} {d : Definition ρ} :
    (d.restrict l).misuses = [] ↔ d.misuses = [] ∧ d.kind.admits l = true := by
  unfold restrict
  split
  · rename_i h
    simp [install, h]
  · rename_i h
    simp [misuse, h]

lemma misuses_apply {f : Facet ρ} {d : Definition ρ} :
    (d.apply f).misuses = [] ↔ d.misuses = [] ∧ f.Applies d := by
  cases f with
  | mutable =>
    simp only [apply, Facet.Applies]
    split
    · rename_i h
      simp [misuse, h]
    · rename_i h
      simp [h]
  | pattern source =>
    simp only [apply, Facet.Applies]
    cases hp : Pattern.compile? source with
    | some p => simp [misuses_restrict, Kind.admits]
    | none => simp [misuse]
  | limit l => exact misuses_restrict
  | _ => simp [apply, install, Facet.Applies]

lemma Facet.applies_congr {f : Facet ρ} {d e : Definition ρ} (h : d.kind = e.kind) :
    f.Applies d ↔ f.Applies e := by
  cases f <;> simp [Facet.Applies, h, role_eq h]

theorem misuses_applyAll {facets : List (Facet ρ)} {d : Definition ρ} :
    (d.applyAll facets).misuses = [] ↔ d.misuses = [] ∧ ∀ f ∈ facets, f.Applies d := by
  induction facets generalizing d with
  | nil => simp [applyAll]
  | cons f facets ih =>
    have hcons : d.applyAll (f :: facets) = (d.apply f).applyAll facets := rfl
    rw [hcons, ih, misuses_apply, List.forall_mem_cons, and_assoc]
    simp only [Facet.applies_congr (kind_apply f d)]

lemma Built.nodup {d : Definition ρ} (h : d.Built) : (d.validators.map (·.slot)).Nodup := by
  apply h.validators_induction (P := fun _ vs => (vs.map (·.slot)).Nodup)
  · exact fun _ => List.nodup_singleton _
  · exact fun _ _ => Validator.nodup_install _
  · exact fun _ v _ _ => Validator.nodup_install v

lemma find?_slot {vs : List (Validator ρ)} (hn : (vs.map (·.slot)).Nodup) {w : Validator ρ}
    (hw : w ∈ vs) {slot : String} (hs : w.slot = slot) : vs.find? (·.slot = slot) = some w := by
  subst hs
  induction vs with
  | nil => cases hw
  | cons v vs ih =>
    obtain ⟨hv, hvs⟩ := List.nodup_cons.1 hn
    rcases List.mem_cons.1 hw with rfl | hw
    · simp
    · have hne : v.slot ≠ w.slot := fun he => hv (List.mem_map.2 ⟨w, hw, he.symm⟩)
      rw [List.find?_cons_of_neg (by simpa using hne)]
      exact ih hvs hw

lemma limitIn?_slot {vs : List (Validator ρ)} (hn : (vs.map (·.slot)).Nodup) {l : Limit}
    (h : .ofRule l.slot (.limit l) ∈ vs) : limitIn? vs l.slot = some l := by
  have hf : vs.find? (·.slot = l.slot) = some _ := find?_slot hn h rfl
  rw [limitIn?, hf]
  rfl

lemma allowedValues?_slot {d : Definition ρ} (hn : (d.validators.map (·.slot)).Nodup)
    {values : List (Value ρ)}
    (h : .ofRule "allowed_values" (.allowedValues values) ∈ d.validators) :
    d.allowedValues? = some values := by
  have hf : d.validators.find? (·.slot = "allowed_values") = some _ := find?_slot hn h rfl
  rw [allowedValues?, ruleIn?, hf]
  rfl

lemma mem_boundSlots {low high : Limit} (h : exceeds low high = true) :
    (low.slot, high.slot) ∈ boundSlots := by
  unfold exceeds at h
  split at h
  · simp [boundSlots, Limit.slot]
  · simp [boundSlots, Limit.slot]
  · simp [boundSlots, Limit.slot]
  · simp [boundSlots, Limit.slot]
  · simp [boundSlots, Limit.slot]
  · simp [boundSlots, Limit.slot]
  · cases h

lemma not_exceeds {place : String} {vs : List (Validator ρ)} (hn : (vs.map (·.slot)).Nodup)
    (h : checkBounds place vs = .ok ()) {low high : Limit}
    (hlow : .ofRule low.slot (.limit low) ∈ vs) (hhigh : .ofRule high.slot (.limit high) ∈ vs) :
    exceeds low high = false := by
  unfold checkBounds at h
  split at h
  · cases h
  · rename_i hf
    by_contra hx
    rw [Bool.not_eq_false] at hx
    have hi := List.find?_eq_none.1 hf _ (mem_boundSlots hx)
    simp [isInverted, limitIn?_slot hn hlow, limitIn?_slot hn hhigh, hx] at hi

lemma Built.within {d p : Definition ρ} (hd : d.Built) (hp : p.Within d) : p.Built := by
  induction hp with
  | self => exact hd
  | part hm _ ih => exact ih (hd.parts _ hm)

variable [Referent ρ] [Predicates ρ]

structure Consistent (d : Definition ρ) : Prop where
  facets_apply : ∀ (base : Definition ρ) (facets : List (Facet ρ)),
    d = { base.applyAll facets with name := d.name } → ∀ f ∈ facets, f.Applies base
  no_misuse : d.misuses = []
  bounds : ∀ low high : Limit, .ofRule low.slot (.limit low) ∈ d.validators →
    .ofRule high.slot (.limit high) ∈ d.validators → exceeds low high = false
  default_valid : ∀ v, d.default = some v → d.validate (some v) = .ok ()
  allowed_valid : ∀ values, .ofRule "allowed_values" (.allowedValues values) ∈ d.validators →
    ∀ v ∈ values, (∀ w ∈ d.validators, w.slot ≠ "allowed_values" → w.rule.violatedBy v = false) ∧
      ∀ place, validateParts d.kind place v = .ok ()

lemma checkDeclaration_eq_ok {d : Definition ρ} {place : String} :
    d.checkDeclaration place = .ok () ↔ d.misuses = [] ∧ checkBounds place d.validators = .ok () ∧
      checkParts d.kind place = .ok () ∧ checkValues place d = .ok () := by
  obtain ⟨t, kind⟩ := d
  have hmisuses : checkMisuses place t.misuses = .ok () ↔ t.misuses = [] := by
    cases t.misuses <;> simp [checkMisuses]
  rw [checkDeclaration, ← hmisuses]
  simp only [Outcome.bind_eq_ok]
  constructor
  · rintro ⟨_, hm, _, hb, _, hp, hv⟩
    exact ⟨hm, hb, hp, hv⟩
  · rintro ⟨hm, hb, hp, hv⟩
    exact ⟨(), hm, (), hb, (), hp, hv⟩

lemma checkItems_ok {items : List (Definition ρ)} {place : String} {i : ℕ}
    (h : checkItems items place i = .ok ()) :
    ∀ p ∈ items, ∃ place, p.checkDeclaration place = .ok () := by
  induction items generalizing i with
  | nil => simp
  | cons d ds ih =>
    rw [checkItems, Outcome.bind_eq_ok] at h
    obtain ⟨_, hd, hrest⟩ := h
    rw [List.forall_mem_cons]
    exact ⟨⟨_, hd⟩, ih hrest⟩

lemma checkKeys_ok {keys : List (String × Definition ρ)} {place : String}
    (h : checkKeys keys place = .ok ()) :
    ∀ p ∈ Dict.values keys, ∃ place, p.checkDeclaration place = .ok () := by
  induction keys with
  | nil => simp [Dict.values]
  | cons e keys ih =>
    obtain ⟨key, d⟩ := e
    rw [checkKeys, Outcome.bind_eq_ok] at h
    obtain ⟨_, hd, hrest⟩ := h
    have hcons : Dict.values ((key, d) :: keys) = d :: Dict.values keys := rfl
    rw [hcons, List.forall_mem_cons]
    exact ⟨⟨_, hd⟩, ih hrest⟩

lemma checkDeclaration_part {d p : Definition ρ} {place : String}
    (h : d.checkDeclaration place = .ok ()) (hp : p ∈ d.parts) :
    ∃ place, p.checkDeclaration place = .ok () := by
  obtain ⟨_, _, hparts, _⟩ := checkDeclaration_eq_ok.1 h
  obtain ⟨t, kind⟩ := d
  cases kind with
  | list item =>
    obtain rfl := List.mem_singleton.1 (show p ∈ [item] from hp)
    rw [checkParts] at hparts
    exact ⟨_, hparts⟩
  | tuple items =>
    rw [checkParts] at hparts
    exact checkItems_ok hparts p hp
  | dict value =>
    obtain rfl := List.mem_singleton.1 (show p ∈ [value] from hp)
    rw [checkParts] at hparts
    exact ⟨_, hparts⟩
  | composite keys =>
    rw [checkParts] at hparts
    exact checkKeys_ok hparts p hp
  | _ => simp [parts] at hp

lemma checkDeclaration_within {d p : Definition ρ} {place : String}
    (h : d.checkDeclaration place = .ok ()) (hp : p.Within d) :
    ∃ place, p.checkDeclaration place = .ok () := by
  induction hp generalizing place with
  | self => exact ⟨place, h⟩
  | part hm _ ih =>
    obtain ⟨_, hq⟩ := checkDeclaration_part h hm
    exact ih hq

theorem consistent_of_checked {d : Definition ρ} {place : String} (hd : d.Built)
    (h : d.checkDeclaration place = .ok ()) : d.Consistent := by
  obtain ⟨hmisuses, hbounds, _, hvalues⟩ := checkDeclaration_eq_ok.1 h
  rw [checkValues, Outcome.bind_eq_ok] at hvalues
  obtain ⟨_, hallowed, hdefault⟩ := hvalues
  refine ⟨fun base facets he => ?_, hmisuses, fun low high => ?_, fun v hv => ?_, ?_⟩
  · rw [he] at hmisuses
    exact (misuses_applyAll.1 hmisuses).2
  · exact not_exceeds hd.nodup hbounds
  · rw [checkDefault, hv] at hdefault
    exact validateAs_iff.1 (Outcome.mapError_eq_ok.1 hdefault)
  · intro values hvalues v hv
    rw [allowedValues?_slot hd.nodup hvalues, Option.getD_some, Outcome.forM_eq_ok] at hallowed
    have hchecked := hallowed v hv
    rw [checkAllowed, Outcome.mapError_eq_ok, Outcome.bind_eq_ok] at hchecked
    obtain ⟨_, hrules, hparts⟩ := hchecked
    rw [runValidators_eq_ok] at hrules
    refine ⟨fun w hw hs => hrules w (List.mem_filter.2 ⟨hw, by simpa using hs⟩), ?_⟩
    exact (validateParts_iff _).1 hparts

theorem consistent_within {d : Definition ρ} {place : String} (hd : d.Built)
    (h : d.checkDeclaration place = .ok ()) : ∀ p : Definition ρ, p.Within d → p.Consistent := by
  intro p hp
  obtain ⟨_, hchecked⟩ := checkDeclaration_within h hp
  exact consistent_of_checked (hd.within hp) hchecked

end Definition

end TypedArtifacts
