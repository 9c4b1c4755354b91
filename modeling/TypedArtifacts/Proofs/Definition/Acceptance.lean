import TypedArtifacts.Proofs.Definition.Conforming

/-! What a definition accepts, apart from the place that an error would name. -/

namespace TypedArtifacts

variable {ρ : Type}

structure Value.Alike (R : Value ρ → Value ρ → Prop) : Prop where
  list : ∀ {v ws}, R v (.list ws) → ∃ vs, v = .list vs ∧ List.Forall₂ R vs ws
  dict : ∀ {v fs}, R v (.dict fs) →
    ∃ es, v = .dict es ∧ List.Forall₂ (fun e f => e.1 = f.1 ∧ R e.2 f.2) es fs

lemma Value.alike_eq : Alike (ρ := ρ) Eq where
  list h := ⟨_, h, List.forall₂_same.2 fun _ _ => rfl⟩
  dict h := ⟨_, h, List.forall₂_same.2 fun _ _ => ⟨rfl, rfl⟩⟩

namespace Definition

section

variable {R : Value ρ → Value ρ → Prop} {place place' : String} {i j : ℕ}
  {check : String → Value ρ → Except ValidationError Unit}
  {vs ws : List (Value ρ)} {es fs : List (String × Value ρ)}

lemma eachItem_congr
    (hc : ∀ place place' v w, R v w → check place v = .ok () → check place' w = .ok ())
    (h : List.Forall₂ R vs ws) (hv : eachItem check place i vs = .ok ()) :
    eachItem check place' j ws = .ok () := by
  induction h generalizing i j with
  | nil => rfl
  | cons hr _ ih =>
    rw [eachItem, Outcome.bind_eq_ok] at hv ⊢
    obtain ⟨_, hfirst, hrest⟩ := hv
    exact ⟨(), hc _ _ _ _ hr hfirst, ih hrest⟩

lemma eachEntry_congr
    (hc : ∀ place place' v w, R v w → check place v = .ok () → check place' w = .ok ())
    (h : List.Forall₂ (fun e f => e.1 = f.1 ∧ R e.2 f.2) es fs)
    (hv : eachEntry check place es = .ok ()) : eachEntry check place' fs = .ok () := by
  induction h with
  | nil => rfl
  | cons hr _ ih =>
    rw [eachEntry, Outcome.bind_eq_ok] at hv ⊢
    obtain ⟨_, hfirst, hrest⟩ := hv
    exact ⟨(), hc _ _ _ _ hr.2 hfirst, ih hrest⟩

lemma lookup_forall₂ (h : List.Forall₂ (fun e f => e.1 = f.1 ∧ R e.2 f.2) es fs) (key : String) :
    es.lookup key = none ∧ fs.lookup key = none ∨
      ∃ v w, es.lookup key = some v ∧ fs.lookup key = some w ∧ R v w := by
  induction h with
  | nil => exact Or.inl ⟨rfl, rfl⟩
  | @cons e f _ _ hr _ ih =>
    rw [List.lookup_cons, List.lookup_cons, ← hr.1]
    cases key == e.1 with
    | true => exact Or.inr ⟨e.2, f.2, rfl, rfl, hr.2⟩
    | false => exact ih

lemma find?_undeclared {keys : List (String × Definition ρ)}
    (h : List.Forall₂ (fun e f => e.1 = f.1 ∧ R e.2 f.2) es fs)
    (hv : es.find? (fun e => (keys.lookup e.1).isNone) = none) :
    fs.find? (fun e => (keys.lookup e.1).isNone) = none := by
  rw [List.find?_eq_none] at hv ⊢
  intro f hf
  obtain ⟨e, he, hr⟩ := Outcome.exists_left h hf
  rw [← hr.1]
  exact hv e he

end

variable [Referent ρ] [Predicates ρ]

section

variable {R : Value ρ → Value ρ → Prop} {place place' : String} {i j : ℕ}
  {vs ws : List (Value ρ)} {es fs : List (String × Value ρ)}

lemma runValidators_eq_ok {v : Value ρ} {us : List (Validator ρ)} :
    runValidators place v us = .ok () ↔ ∀ u ∈ us, u.rule.violatedBy v = false := by
  refine ⟨not_violated, fun h => ?_⟩
  induction us with
  | nil => rfl
  | cons u us ih =>
    rw [runValidators, if_neg (by simp [h u List.mem_cons_self])]
    exact ih fun x hx => h x (List.mem_cons_of_mem _ hx)

lemma validateAs_none {d : Definition ρ} :
    d.validateAs place none = .ok () ↔ d.required = false := by
  obtain ⟨t, kind⟩ := d
  rw [validateAs]
  cases t.required <;> simp

lemma validateItems_congr {items : List (Definition ρ)}
    (hc : ∀ d ∈ items, ∀ place place' v w, R v w → d.validateAs place (some v) = .ok () →
      d.validateAs place' (some w) = .ok ())
    (h : List.Forall₂ R vs ws) (hv : validateItems items place i vs = .ok ()) :
    validateItems items place' j ws = .ok () := by
  induction items generalizing i j vs ws with
  | nil =>
    cases h with
    | nil => rfl
    | cons _ _ => simp [validateItems] at hv
  | cons d ds ih =>
    cases h with
    | nil => rfl
    | cons hr hrs =>
      rw [validateItems, Outcome.bind_eq_ok] at hv ⊢
      obtain ⟨_, hfirst, hrest⟩ := hv
      refine ⟨(), hc d List.mem_cons_self _ _ _ _ hr hfirst, ?_⟩
      exact ih (fun e he => hc e (List.mem_cons_of_mem _ he)) hrs hrest

lemma validateKeys_congr {keys : List (String × Definition ρ)}
    (hc : ∀ d ∈ Dict.values keys, ∀ place place' v w, R v w →
      d.validateAs place (some v) = .ok () → d.validateAs place' (some w) = .ok ())
    (h : List.Forall₂ (fun e f => e.1 = f.1 ∧ R e.2 f.2) es fs)
    (hv : validateKeys keys place es = .ok ()) : validateKeys keys place' fs = .ok () := by
  induction keys with
  | nil => rfl
  | cons e keys ih =>
    obtain ⟨key, d⟩ := e
    rw [validateKeys, Outcome.bind_eq_ok] at hv ⊢
    obtain ⟨_, hfirst, hrest⟩ := hv
    refine ⟨(), ?_, ih (fun e he => hc e (List.mem_cons_of_mem _ he)) hrest⟩
    rcases lookup_forall₂ h key with ⟨hes, hfs⟩ | ⟨v, w, hes, hfs, hr⟩
    · rw [hes] at hfirst
      rw [hfs]
      exact validateAs_none.2 (validateAs_none.1 hfirst)
    · rw [hes] at hfirst
      rw [hfs]
      exact hc d List.mem_cons_self _ _ _ _ hr hfirst

lemma validateParts_congr (hR : Value.Alike R) {kind : Kind (Definition ρ)}
    (hc : ∀ d ∈ (ofKind kind).parts, ∀ place place' v w, R v w →
      d.validateAs place (some v) = .ok () → d.validateAs place' (some w) = .ok ())
    {v w : Value ρ} (h : R v w) (hv : validateParts kind place v = .ok ()) :
    validateParts kind place' w = .ok () := by
  cases w with
  | list ws =>
    obtain ⟨vs, rfl, hall⟩ := hR.list h
    cases kind with
    | list item =>
      rw [validateParts] at hv ⊢
      exact eachItem_congr (hc item (List.mem_singleton_self _)) hall hv
    | tuple items =>
      rw [validateParts] at hv ⊢
      exact validateItems_congr hc hall hv
    | _ => simp [validateParts]
  | dict fs =>
    obtain ⟨es, rfl, hall⟩ := hR.dict h
    cases kind with
    | dict value =>
      rw [validateParts] at hv ⊢
      exact eachEntry_congr (hc value (List.mem_singleton_self _)) hall hv
    | composite keys =>
      rw [validateParts] at hv ⊢
      split at hv
      · cases hv
      · rename_i hf
        rw [find?_undeclared hall hf]
        exact validateKeys_congr hc hall hv
    | _ => simp [validateParts]
  | _ => cases kind <;> simp [validateParts]

def Respects (R : Value ρ → Value ρ → Prop) (d : Definition ρ) : Prop :=
  ∀ p : Definition ρ, p.Within d → ∀ u ∈ p.validators, ∀ v w, R v w →
    u.rule.violatedBy v = u.rule.violatedBy w

lemma respects_eq (d : Definition ρ) : d.Respects Eq := by
  rintro _ _ _ _ _ _ rfl
  rfl

theorem validateAs_congr (hR : Value.Alike R) {d : Definition ρ} (hd : d.Respects R) {v w : Value ρ}
    (h : R v w) (hv : d.validateAs place (some v) = .ok ()) :
    d.validateAs place' (some w) = .ok () := by
  induction d using Definition.induction generalizing v w place place' with
  | h d ih =>
    obtain ⟨hrun, hparts⟩ := validateAs_some.1 hv
    refine validateAs_some.2 ⟨?_, ?_⟩
    · rw [runValidators_eq_ok] at hrun ⊢
      intro u hu
      rw [← hd d .self u hu v w h]
      exact hrun u hu
    · refine validateParts_congr hR (fun p hp _ _ _ _ => ih p hp ?_) h hparts
      exact fun q hq => hd q (.part hp hq)

end

def Accepts (d : Definition ρ) (v : Value ρ) : Prop :=
  d.validate (some v) = .ok ()

lemma validateAs_iff {d : Definition ρ} {place : String} {v : Value ρ} :
    d.validateAs place (some v) = .ok () ↔ d.Accepts v :=
  ⟨validateAs_congr Value.alike_eq d.respects_eq rfl, validateAs_congr Value.alike_eq d.respects_eq rfl⟩

def AcceptsParts (kind : Kind (Definition ρ)) (v : Value ρ) : Prop :=
  ∀ place, validateParts kind place v = .ok ()

lemma validateParts_iff (place : String) {kind : Kind (Definition ρ)} {v : Value ρ} :
    validateParts kind place v = .ok () ↔ AcceptsParts kind v := by
  refine ⟨fun h place' => ?_, fun h => h place⟩
  have hparts : ∀ p ∈ (ofKind kind).parts, ∀ place place' v w, v = w →
      p.validateAs place (some v) = .ok () → p.validateAs place' (some w) = .ok () :=
    fun p _ _ _ _ _ h hv => validateAs_congr Value.alike_eq p.respects_eq h hv
  exact validateParts_congr Value.alike_eq hparts rfl h

lemma accepts_iff {d : Definition ρ} {v : Value ρ} :
    d.Accepts v ↔ (∀ w ∈ d.validators, w.rule.violatedBy v = false) ∧ AcceptsParts d.kind v := by
  rw [Accepts, validate, validateAs_some, runValidators_eq_ok, validateParts_iff]

lemma acceptsParts_list {item : Definition ρ} {vs : List (Value ρ)} :
    AcceptsParts (.list item) (.list vs) ↔ ∀ v ∈ vs, item.Accepts v := by
  rw [← validateParts_iff "", validateParts]
  constructor
  · intro h v hv
    obtain ⟨_, hp⟩ := eachItem_ok h v hv
    exact validateAs_iff.1 hp
  · intro h
    generalize 0 = i
    induction vs generalizing i with
    | nil => rfl
    | cons v vs ih =>
      rw [eachItem, Outcome.bind_eq_ok]
      refine ⟨(), validateAs_iff.2 (h v List.mem_cons_self), ih ?_ _⟩
      exact fun u hu => h u (List.mem_cons_of_mem _ hu)

lemma acceptsParts_dict {value : Definition ρ} {es : List (String × Value ρ)} :
    AcceptsParts (.dict value) (.dict es) ↔ ∀ e ∈ es, value.Accepts e.2 := by
  rw [← validateParts_iff "", validateParts]
  constructor
  · exact fun h e he => validateAs_iff.1 (eachEntry_ok h e he)
  · intro h
    induction es with
    | nil => rfl
    | cons e es ih =>
      rw [eachEntry, Outcome.bind_eq_ok]
      refine ⟨(), validateAs_iff.2 (h e List.mem_cons_self), ih ?_⟩
      exact fun f hf => h f (List.mem_cons_of_mem _ hf)

lemma acceptsParts_tuple {items : List (Definition ρ)} {vs : List (Value ρ)} :
    AcceptsParts (.tuple items) (.list vs) ↔
      vs.length ≤ items.length ∧ ∀ e ∈ items.zip vs, e.1.Accepts e.2 := by
  rw [← validateParts_iff "", validateParts]
  constructor
  · intro h
    obtain ⟨hl, hz⟩ := validateItems_ok h
    refine ⟨hl, fun e he => ?_⟩
    obtain ⟨_, hp⟩ := hz e he
    exact validateAs_iff.1 hp
  · rintro ⟨hl, hz⟩
    generalize 0 = i
    induction items generalizing i vs with
    | nil =>
      obtain rfl := List.length_eq_zero_iff.1 (Nat.le_zero.1 hl)
      rfl
    | cons d ds ih =>
      cases vs with
      | nil => rfl
      | cons v vs =>
        rw [List.zip_cons_cons] at hz
        rw [validateItems, Outcome.bind_eq_ok]
        refine ⟨(), validateAs_iff.2 (hz (d, v) List.mem_cons_self), ih (by simpa using hl) ?_ _⟩
        exact fun e he => hz e (List.mem_cons_of_mem _ he)

lemma acceptsParts_composite {keys : List (String × Definition ρ)} {es : List (String × Value ρ)} :
    AcceptsParts (.composite keys) (.dict es) ↔ (∀ e ∈ es, (keys.lookup e.1).isSome = true) ∧
      ∀ e ∈ keys, (es.lookup e.1 = none → e.2.required = false) ∧
        ∀ v, es.lookup e.1 = some v → e.2.Accepts v := by
  rw [← validateParts_iff ""]
  constructor
  · intro h
    obtain ⟨hdeclared, hkeys⟩ := validateComposite_ok h
    refine ⟨hdeclared, fun e he => ⟨fun hn => ?_, fun v hv => ?_⟩⟩
    · have hvalid := hkeys e he
      rw [hn] at hvalid
      exact validateAs_none.1 hvalid
    · have hvalid := hkeys e he
      rw [hv] at hvalid
      exact validateAs_iff.1 hvalid
  · rintro ⟨hdeclared, hkeys⟩
    have hf : es.find? (fun e => (keys.lookup e.1).isNone) = none := by
      rw [List.find?_eq_none]
      intro e he
      simp [Option.isSome_iff_ne_none.1 (hdeclared e he)]
    rw [validateParts, hf]
    clear hdeclared hf
    induction keys with
    | nil => rfl
    | cons e keys ih =>
      obtain ⟨hunset, hset⟩ := hkeys e List.mem_cons_self
      simp only [validateKeys, Outcome.bind_eq_ok]
      refine ⟨(), ?_, ih fun f hf => hkeys f (List.mem_cons_of_mem _ hf)⟩
      cases hl : es.lookup e.1 with
      | none => exact validateAs_none.2 (hunset hl)
      | some v => exact validateAs_iff.2 (hset v hl)

end Definition

end TypedArtifacts
