import TypedArtifacts.Proofs.Definition.Conversion
import TypedArtifacts.Proofs.Definition.Canonical

namespace TypedArtifacts.Definition

variable {ρ : Type}

section

variable {convert convert' : String → Json → Except ValidationError (Option (Value ρ))}

lemma eachJsonItem_congr
    (h : ∀ place place' j r, convert place j = .ok r → convert place' j = .ok r)
    {place place' : String} {i i' : ℕ} {js : List Json} {vs : List (Value ρ)}
    (hr : eachJsonItem convert place i js = .ok vs) :
    eachJsonItem convert place' i' js = .ok vs := by
  induction js generalizing i i' vs with
  | nil => exact hr
  | cons j js ih =>
    obtain ⟨v, hv, hr⟩ := Outcome.bind_eq_ok.1 hr
    rw [eachJsonItem, h _ (itemPlace place' i') j v hv, Outcome.ok_bind]
    cases v with
    | none => cases hr
    | some v =>
      obtain ⟨ws, hws, hr⟩ := Outcome.bind_eq_ok.1 hr
      obtain rfl := Except.ok.inj hr
      exact Outcome.bind_eq_ok.2 ⟨ws, ih hws, rfl⟩

lemma eachJsonField_congr (h : ∀ key j r, convert key j = .ok r → convert' key j = .ok r)
    {fields : List (String × Json)} {es : List (String × Value ρ)}
    (hr : eachJsonField convert fields = .ok es) : eachJsonField convert' fields = .ok es := by
  induction fields generalizing es with
  | nil => exact hr
  | cons e fields ih =>
    obtain ⟨v, hv, hr⟩ := Outcome.bind_eq_ok.1 hr
    obtain ⟨ws, hws, hr⟩ := Outcome.bind_eq_ok.1 hr
    exact Outcome.bind_eq_ok.2 ⟨v, h e.1 e.2 v hv, Outcome.bind_eq_ok.2 ⟨ws, ih hws, hr⟩⟩

lemma eachJsonItem_forall {P : Value ρ → Prop}
    (h : ∀ place j v, convert place j = .ok (some v) → P v) {place : String} {i : ℕ}
    {js : List Json} {vs : List (Value ρ)} (hr : eachJsonItem convert place i js = .ok vs) :
    ∀ v ∈ vs, P v := by
  induction js generalizing i vs with
  | nil =>
    obtain rfl := Except.ok.inj hr
    exact nofun
  | cons j js ih =>
    obtain ⟨v, hv, hr⟩ := Outcome.bind_eq_ok.1 hr
    cases v with
    | none => cases hr
    | some v =>
      obtain ⟨ws, hws, hr⟩ := Outcome.bind_eq_ok.1 hr
      obtain rfl := Except.ok.inj hr
      exact List.forall_mem_cons.2 ⟨h _ j v hv, ih hws⟩

lemma eachJsonField_forall {P : String → Value ρ → Prop}
    (h : ∀ key j v, convert key j = .ok (some v) → P key v) {fields : List (String × Json)}
    {es : List (String × Value ρ)} (hr : eachJsonField convert fields = .ok es) :
    ∀ e ∈ es, P e.1 e.2 := by
  induction fields generalizing es with
  | nil =>
    obtain rfl := Except.ok.inj hr
    exact nofun
  | cons e fields ih =>
    obtain ⟨v, hv, hr⟩ := Outcome.bind_eq_ok.1 hr
    obtain ⟨ws, hws, hr⟩ := Outcome.bind_eq_ok.1 hr
    obtain rfl := Except.ok.inj hr
    cases v with
    | none => exact ih hws
    | some v => exact List.forall_mem_cons.2 ⟨h e.1 e.2 v hv, ih hws⟩

end

lemma itemsFromJson_congr {items : List (Definition ρ)}
    (h : ∀ d ∈ items, ∀ place place' j r, d.fromJsonAs place j = .ok r →
      d.fromJsonAs place' j = .ok r)
    {place place' : String} {i i' : ℕ} {js : List Json} {vs : List (Value ρ)}
    (hr : itemsFromJson items place i js = .ok vs) : itemsFromJson items place' i' js = .ok vs := by
  induction items generalizing i i' js vs with
  | nil =>
    cases js with
    | nil => simpa only [itemsFromJson] using hr
    | cons j js => simp [itemsFromJson] at hr
  | cons d ds ih =>
    cases js with
    | nil => simpa only [itemsFromJson] using hr
    | cons j js =>
      rw [itemsFromJson, Outcome.bind_eq_ok] at hr
      obtain ⟨v, hv, hr⟩ := hr
      rw [itemsFromJson, h d List.mem_cons_self _ (itemPlace place' i') j v hv, Outcome.ok_bind]
      cases v with
      | none => cases hr
      | some v =>
        obtain ⟨ws, hws, hr⟩ := Outcome.bind_eq_ok.1 hr
        obtain rfl := Except.ok.inj hr
        have hrest : itemsFromJson ds place' (i' + 1) js = .ok ws :=
          ih (fun p hp => h p (List.mem_cons_of_mem _ hp)) hws
        exact Outcome.bind_eq_ok.2 ⟨ws, hrest, rfl⟩

lemma itemsFromJson_zip {items : List (Definition ρ)} {place : String} {i : ℕ} {js : List Json}
    {vs : List (Value ρ)} (hr : itemsFromJson items place i js = .ok vs) :
    vs.length ≤ items.length ∧
      ∀ e ∈ items.zip vs, ∃ place j, e.1.fromJsonAs place j = .ok (some e.2) := by
  induction items generalizing i js vs with
  | nil =>
    cases js with
    | nil =>
      rw [itemsFromJson] at hr
      obtain rfl := Except.ok.inj hr
      simp
    | cons j js => simp [itemsFromJson] at hr
  | cons d ds ih =>
    cases js with
    | nil =>
      rw [itemsFromJson] at hr
      obtain rfl := Except.ok.inj hr
      simp
    | cons j js =>
      rw [itemsFromJson, Outcome.bind_eq_ok] at hr
      obtain ⟨v, hv, hr⟩ := hr
      cases v with
      | none => cases hr
      | some v =>
        obtain ⟨ws, hws, hr⟩ := Outcome.bind_eq_ok.1 hr
        obtain rfl := Except.ok.inj hr
        obtain ⟨hl, hz⟩ := ih hws
        refine ⟨Nat.succ_le_succ hl, ?_⟩
        rw [List.zip_cons_cons]
        exact List.forall_mem_cons.2 ⟨⟨_, j, hv⟩, hz⟩

lemma keyFromJson_cases {keys : List (String × Definition ρ)} {place key : String} {j : Json}
    {r : Option (Value ρ)} (h : keyFromJson keys place key j = .ok r) :
    ∃ d, keys.lookup key = some d ∧ d.fromJsonAs (keyPlace place key) j = .ok r := by
  induction keys with
  | nil => cases h
  | cons e keys ih =>
    obtain ⟨k, d⟩ := e
    by_cases hk : key = k
    · rw [keyFromJson, if_pos hk] at h
      exact ⟨d, by simp [hk], h⟩
    · rw [keyFromJson, if_neg hk] at h
      rw [List.lookup_cons, beq_false_of_ne hk]
      exact ih h

theorem fromJsonAs_congr (d : Definition ρ) {place place' : String} {j : Json}
    {r : Option (Value ρ)} (h : d.fromJsonAs place j = .ok r) : d.fromJsonAs place' j = .ok r := by
  induction d using Definition.induction generalizing place place' j r with
  | h d ih =>
    by_cases hj : j = .null
    · subst hj
      rwa [fromJsonAs_null] at h ⊢
    · rw [fromJsonAs_of_ne_null hj] at h ⊢
      obtain ⟨v, hv, rfl⟩ := Outcome.map_eq_ok.1 h
      refine Outcome.map_eq_ok.2 ⟨v, ?_, rfl⟩
      obtain ⟨t, kind⟩ := d
      cases kind with
      | scalar s =>
        simp only [kindFromJson] at hv ⊢
        split at hv
        · assumption
        · cases hv
      | list item =>
        simp only [kindFromJson] at hv ⊢
        split at hv
        · obtain ⟨vs, hvs, rfl⟩ := Outcome.map_eq_ok.1 hv
          have hitem : ∀ place place' j r, item.fromJsonAs place j = .ok r →
              item.fromJsonAs place' j = .ok r :=
            fun _ _ _ _ => ih item (List.mem_singleton_self _)
          exact Outcome.map_eq_ok.2 ⟨vs, eachJsonItem_congr hitem hvs, rfl⟩
        · cases hv
      | tuple items =>
        simp only [kindFromJson] at hv ⊢
        split at hv
        · obtain ⟨vs, hvs, rfl⟩ := Outcome.map_eq_ok.1 hv
          exact Outcome.map_eq_ok.2 ⟨vs, itemsFromJson_congr (fun d hd _ _ _ _ => ih d hd) hvs, rfl⟩
        · cases hv
      | dict value =>
        simp only [kindFromJson] at hv ⊢
        split at hv
        · obtain ⟨es, hes, rfl⟩ := Outcome.map_eq_ok.1 hv
          exact Outcome.map_eq_ok.2 ⟨es, eachJsonField_congr
            (fun _ _ _ => ih value (List.mem_singleton_self _)) hes, rfl⟩
        · cases hv
      | composite keys =>
        simp only [kindFromJson] at hv ⊢
        split at hv
        · obtain ⟨es, hes, rfl⟩ := Outcome.map_eq_ok.1 hv
          refine Outcome.map_eq_ok.2 ⟨es, eachJsonField_congr (fun key j r hr => ?_) hes, rfl⟩
          obtain ⟨d, hl, hd⟩ := keyFromJson_cases hr
          rw [keyFromJson_lookup hl]
          exact ih d (List.mem_map_of_mem (Dict.mem_of_lookup hl)) hd
        · cases hv
      | relation => cases hv
      | blob => cases hv

variable {d : Definition ρ} {v : Value ρ}

def Reads (d : Definition ρ) (v : Value ρ) : Prop :=
  ∃ place j, d.fromJsonAs place j = .ok (some v)

lemma isVariant_fromJson {s : Scalar} {j : Json} (h : scalarFromJson? s j = some v) :
    s.isVariant v = true := by
  cases s <;> obtain ⟨x, _, rfl⟩ := Option.map_eq_some_iff.1 h <;> rfl

namespace Reads

lemma kind (h : d.Reads v) : ∃ place j, kindFromJson d.kind place j = .ok v := by
  obtain ⟨place, j, h⟩ := h
  by_cases hj : j = .null
  · subst hj
    rw [fromJsonAs_null] at h
    cases h
  · rw [fromJsonAs_of_ne_null hj] at h
    obtain ⟨w, hw, hv⟩ := Outcome.map_eq_ok.1 h
    obtain rfl := Option.some.inj hv
    exact ⟨place, j, hw⟩

lemma scalar {t : Traits ρ} {s : Scalar} (h : Reads ⟨t, .scalar s⟩ v) : s.isVariant v = true := by
  obtain ⟨place, j, h⟩ := h.kind
  simp only [kindFromJson] at h
  split at h
  · rename_i hs
    obtain rfl := Except.ok.inj h
    exact isVariant_fromJson hs
  · cases h

lemma list {t : Traits ρ} {item : Definition ρ} (h : Reads ⟨t, .list item⟩ v) :
    ∃ vs, v = .list vs ∧ ∀ w ∈ vs, item.Reads w := by
  obtain ⟨place, j, h⟩ := h.kind
  simp only [kindFromJson] at h
  split at h
  · obtain ⟨vs, hvs, rfl⟩ := Outcome.map_eq_ok.1 h
    exact ⟨vs, rfl, eachJsonItem_forall (fun place j _ hr => ⟨place, j, hr⟩) hvs⟩
  · cases h

lemma tuple {t : Traits ρ} {items : List (Definition ρ)} (h : Reads ⟨t, .tuple items⟩ v) :
    ∃ vs, v = .list vs ∧ vs.length ≤ items.length ∧ ∀ e ∈ items.zip vs, e.1.Reads e.2 := by
  obtain ⟨place, j, h⟩ := h.kind
  simp only [kindFromJson] at h
  split at h
  · obtain ⟨vs, hvs, rfl⟩ := Outcome.map_eq_ok.1 h
    exact ⟨vs, rfl, itemsFromJson_zip hvs⟩
  · cases h

lemma dict {t : Traits ρ} {value : Definition ρ} (h : Reads ⟨t, .dict value⟩ v) :
    ∃ es, v = .dict es ∧ ∀ e ∈ es, value.Reads e.2 := by
  obtain ⟨place, j, h⟩ := h.kind
  simp only [kindFromJson] at h
  split at h
  · obtain ⟨es, hes, rfl⟩ := Outcome.map_eq_ok.1 h
    exact ⟨es, rfl, eachJsonField_forall (P := fun _ w => value.Reads w)
      (fun _ j _ hr => ⟨_, j, hr⟩) hes⟩
  · cases h

lemma composite {t : Traits ρ} {keys : List (String × Definition ρ)}
    (h : Reads ⟨t, .composite keys⟩ v) :
    ∃ es, v = .dict es ∧ ∀ e ∈ es, ∃ q, keys.lookup e.1 = some q ∧ q.Reads e.2 := by
  obtain ⟨place, j, h⟩ := h.kind
  simp only [kindFromJson] at h
  split at h
  · obtain ⟨es, hes, rfl⟩ := Outcome.map_eq_ok.1 h
    refine ⟨es, rfl, eachJsonField_forall
      (P := fun key w => ∃ q, keys.lookup key = some q ∧ q.Reads w) (fun key j w hr => ?_) hes⟩
    obtain ⟨q, hq, hr⟩ := keyFromJson_cases hr
    exact ⟨q, hq, _, j, hr⟩
  · cases h

theorem normalize (d : Definition ρ) {v : Value ρ} (h : d.Reads v) : d.normalize v = v := by
  induction d using Definition.induction generalizing v with
  | h d ih =>
    obtain ⟨t, kind⟩ := d
    rw [Definition.normalize]
    cases kind with
    | scalar s => exact (Scalar.holds_iff.2 h.scalar).2
    | list item =>
      obtain ⟨vs, rfl, hvs⟩ := h.list
      have hitems : ∀ w ∈ vs, item.normalize w = w :=
        fun w hw => ih item (List.mem_singleton_self _) (hvs w hw)
      rw [normalizeKind, List.map_congr_left hitems, List.map_id']
    | tuple items =>
      obtain ⟨vs, rfl, _, hvs⟩ := h.tuple
      have hitems : ∀ e ∈ items.zip vs, e.1.normalize e.2 = e.2 :=
        fun e he => ih e.1 (List.of_mem_zip he).1 (hvs e he)
      rw [normalizeKind, normalizeItems_zip hitems]
    | dict value =>
      obtain ⟨es, rfl, hes⟩ := h.dict
      have hentries : ∀ e ∈ es, value.normalize e.2 = e.2 :=
        fun e he => ih value (List.mem_singleton_self _) (hes e he)
      rw [normalizeKind, List.map_congr_left fun e he => by rw [hentries e he], List.map_id']
    | composite keys =>
      obtain ⟨es, rfl, hes⟩ := h.composite
      have hentries : ∀ e ∈ es, normalizeKey keys e.1 e.2 = e.2 := by
        intro e he
        obtain ⟨q, hl, hr⟩ := hes e he
        rw [normalizeKey_lookup hl]
        exact ih q (List.mem_map_of_mem (Dict.mem_of_lookup hl)) hr
      rw [normalizeKind, List.map_congr_left fun e he => by rw [hentries e he], List.map_id']
    | relation =>
      obtain ⟨_, _, h⟩ := h.kind
      cases h
    | blob =>
      obtain ⟨_, _, h⟩ := h.kind
      cases h

end Reads

theorem normalize_fromJsonAs (d : Definition ρ) {place : String} {j : Json} {v : Value ρ}
    (h : d.fromJsonAs place j = .ok (some v)) : d.normalize v = v :=
  Reads.normalize d ⟨place, j, h⟩

end TypedArtifacts.Definition
