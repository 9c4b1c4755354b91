import TypedArtifacts.Proofs.Definition.Governed

/-! Values of the form of their definition come back from their JSON. -/

namespace TypedArtifacts

variable {ρ : Type}

namespace Definition

def Plain (d : Definition ρ) : Prop :=
  ∀ p : Definition ρ, p.Within d → p.kind.isRelation = false ∧ p.kind.isBlob = false

lemma Plain.part {d p : Definition ρ} (h : d.Plain) (hp : p ∈ d.parts) : p.Plain :=
  fun q hq => h q (hq.trans (within_of_mem hp))

lemma fromJsonAs_null (d : Definition ρ) (place : String) :
    d.fromJsonAs place .null = .ok none := by
  obtain ⟨t, kind⟩ := d
  rfl

lemma fromJsonAs_of_ne_null {d : Definition ρ} {place : String} {j : Json} (h : j ≠ .null) :
    d.fromJsonAs place j = (kindFromJson d.kind place j).map some := by
  obtain ⟨t, kind⟩ := d
  cases j with
  | null => exact absurd rfl h
  | _ => rfl

lemma keyFromJson_lookup {keys : List (String × Definition ρ)} {key : String} {d : Definition ρ}
    (h : keys.lookup key = some d) (place : String) (j : Json) :
    keyFromJson keys place key j = d.fromJsonAs (keyPlace place key) j := by
  apply Dict.search_of_lookup _ h
  intro _ _ _
  rw [keyFromJson]

lemma toInt_mem (n : Int64) : Json.minInt64 ≤ n.toInt ∧ n.toInt ≤ Json.maxInt64 := by
  have hl := n.le_toInt
  have hu := n.toInt_lt
  simp only [Json.minInt64, Json.maxInt64]
  constructor <;> omega

section

variable [Referent ρ]

lemma scalarFromJson?_toJson {s : Scalar} {v : Value ρ} (h : s.Holds v) (hv : v.Expressible) :
    scalarFromJson? s v.toJson = some v := by
  obtain ⟨hf, hn⟩ := h
  cases s <;> cases v <;> simp [Scalar.shape, Shape.fits, normalizeScalar] at hf hn ⊢
  case integer.integer n =>
    simp [scalarFromJson?, Value.toJson, Json.int64?_int (toInt_mem n).1 (toInt_mem n).2]
  case numeric.numeric x =>
    have hx := hv.finite x .self
    simp [scalarFromJson?, Value.toJson, Json.ofFloat, hx, Json.number?]
  case datetime.instant t =>
    simp [scalarFromJson?, Value.toJson, Json.str?, Instant.parse?_micros (hv.inMicros t .self)]
  all_goals rfl

lemma eachJsonItem_toJson {convert : String → Json → Except ValidationError (Option (Value ρ))}
    {vs : List (Value ρ)} (h : ∀ v ∈ vs, ∀ place, convert place v.toJson = .ok (some v))
    (place : String) (i : ℕ) : eachJsonItem convert place i (vs.map Value.toJson) = .ok vs := by
  induction vs generalizing i with
  | nil => rfl
  | cons v vs ih =>
    rw [List.map_cons, eachJsonItem, h v List.mem_cons_self, Outcome.ok_bind,
      ih fun w hw => h w (List.mem_cons_of_mem _ hw)]
    rfl

lemma eachJsonField_toJson {convert : String → Json → Except ValidationError (Option (Value ρ))}
    {es : List (String × Value ρ)} (h : ∀ e ∈ es, convert e.1 e.2.toJson = .ok (some e.2)) :
    eachJsonField convert (es.map fun e => (e.1, e.2.toJson)) = .ok es := by
  induction es with
  | nil => rfl
  | cons e es ih =>
    rw [List.map_cons, eachJsonField, h e List.mem_cons_self, Outcome.ok_bind,
      ih fun e he => h e (List.mem_cons_of_mem _ he)]
    rfl

lemma itemsFromJson_toJson {items : List (Definition ρ)} {vs : List (Value ρ)}
    (hl : vs.length ≤ items.length)
    (h : ∀ e ∈ items.zip vs, ∀ place, e.1.fromJsonAs place e.2.toJson = .ok (some e.2))
    (place : String) (i : ℕ) : itemsFromJson items place i (vs.map Value.toJson) = .ok vs := by
  induction items generalizing vs i with
  | nil =>
    obtain rfl : vs = [] := List.length_eq_zero_iff.1 (Nat.le_zero.1 hl)
    simp [itemsFromJson]
  | cons d ds ih =>
    cases vs with
    | nil => simp [itemsFromJson]
    | cons v vs =>
      rw [List.zip_cons_cons] at h
      have hr := ih (Nat.le_of_succ_le_succ hl) (fun e he => h e (List.mem_cons_of_mem _ he)) (i + 1)
      rw [List.map_cons, itemsFromJson, h (d, v) List.mem_cons_self, Outcome.ok_bind, hr]
      rfl

section

variable {t : Traits ρ} {place : String}

lemma fromJsonAs_list {item : Definition ρ} {vs : List (Value ρ)}
    (h : ∀ v ∈ vs, ∀ place, item.fromJsonAs place v.toJson = .ok (some v)) :
    fromJsonAs ⟨t, .list item⟩ place (Value.list vs).toJson = .ok (some (.list vs)) := by
  rw [Value.toJson, Value.itemsToJson_eq, fromJsonAs_of_ne_null (by simp)]
  simp only [kindFromJson, Json.arr?]
  rw [eachJsonItem_toJson h]
  rfl

lemma fromJsonAs_tuple {items : List (Definition ρ)} {vs : List (Value ρ)}
    (hl : vs.length ≤ items.length)
    (h : ∀ e ∈ items.zip vs, ∀ place, e.1.fromJsonAs place e.2.toJson = .ok (some e.2)) :
    fromJsonAs ⟨t, .tuple items⟩ place (Value.list vs).toJson = .ok (some (.list vs)) := by
  rw [Value.toJson, Value.itemsToJson_eq, fromJsonAs_of_ne_null (by simp)]
  simp only [kindFromJson, Json.arr?]
  rw [itemsFromJson_toJson hl h]
  rfl

lemma fromJsonAs_dict {value : Definition ρ} {es : List (String × Value ρ)}
    (h : ∀ e ∈ es, value.fromJsonAs (keyPlace place e.1) e.2.toJson = .ok (some e.2)) :
    fromJsonAs ⟨t, .dict value⟩ place (Value.dict es).toJson = .ok (some (.dict es)) := by
  rw [Value.toJson, Value.entriesToJson_eq, fromJsonAs_of_ne_null (by simp)]
  simp only [kindFromJson, Json.obj?]
  rw [eachJsonField_toJson h]
  rfl

lemma fromJsonAs_composite {keys : List (String × Definition ρ)} {es : List (String × Value ρ)}
    (h : ∀ e ∈ es, keyFromJson keys place e.1 e.2.toJson = .ok (some e.2)) :
    fromJsonAs ⟨t, .composite keys⟩ place (Value.dict es).toJson = .ok (some (.dict es)) := by
  rw [Value.toJson, Value.entriesToJson_eq, fromJsonAs_of_ne_null (by simp)]
  simp only [kindFromJson, Json.obj?]
  rw [eachJsonField_toJson h]
  rfl

end

theorem fromJsonAs_toJson_of_fits (d : Definition ρ) {v : Value ρ} (h : d.FitsThroughout v)
    (hd : d.Plain) (hv : v.Expressible) (place : String) :
    d.fromJsonAs place v.toJson = .ok (some v) := by
  -- JSON has lost the variants of the parts, so the induction is on what tells them again.
  induction d using Definition.induction generalizing v place with
  | h d ih =>
    have hvariant := h.fits.variant
    obtain ⟨t, kind⟩ := d
    cases kind with
    | scalar s =>
      rw [fromJsonAs_of_ne_null (Value.toJson_ne_null hv), kindFromJson,
        scalarFromJson?_toJson (Scalar.holds_iff.2 hvariant) hv]
      rfl
    | list item =>
      have hm : item ∈ (mk t (.list item)).parts := List.mem_singleton_self item
      cases v with
      | list vs =>
        refine fromJsonAs_list fun v hmem place => ?_
        obtain ⟨i, hi⟩ := List.mem_iff_getElem?.1 hmem
        exact ih item hm (h.item rfl hi) (hd.part hm) (hv.child hmem) place
      | _ => cases hvariant
    | tuple items =>
      cases v with
      | list vs =>
        refine fromJsonAs_tuple (h.fits.arity items vs rfl rfl) fun e he place => ?_
        obtain ⟨i, hi⟩ := List.mem_iff_getElem?.1 he
        obtain ⟨hitem, hvalue⟩ := List.getElem?_zip_eq_some.1 hi
        have hm : e.1 ∈ (mk t (.tuple items)).parts := (List.of_mem_zip he).1
        exact ih e.1 hm (h.item hitem hvalue) (hd.part hm) (hv.child (List.of_mem_zip he).2) place
      | _ => cases hvariant
    | dict value =>
      have hm : value ∈ (mk t (.dict value)).parts := List.mem_singleton_self value
      cases v with
      | dict es =>
        refine fromJsonAs_dict fun e he => ?_
        exact ih value hm (h.entry rfl he) (hd.part hm) (hv.child (Value.mem_children_dict he)) _
      | _ => cases hvariant
    | composite keys =>
      cases v with
      | dict es =>
        refine fromJsonAs_composite fun e he => ?_
        obtain ⟨q, hl⟩ := Option.isSome_iff_exists.1 (h.fits.declared keys es rfl rfl e he)
        have hm : q ∈ (mk t (.composite keys)).parts :=
          List.mem_map_of_mem (Dict.mem_of_lookup hl)
        rw [keyFromJson_lookup hl]
        exact ih q hm (h.entry hl he) (hd.part hm) (hv.child (Value.mem_children_dict he)) _
      | _ => cases hvariant
    | relation => exact absurd (hd _ .self).1 (by simp [Kind.isRelation])
    | blob => exact absurd (hd _ .self).2 (by simp [Kind.isBlob])

theorem fromJsonAs_toJson {d : Definition ρ} {v : Value ρ} (h : d.Conforms v) (hd : d.Plain)
    (hv : v.Expressible) (place : String) : d.fromJsonAs place v.toJson = .ok (some v) :=
  fromJsonAs_toJson_of_fits d h.fitsThroughout hd hv place

end

end Definition

end TypedArtifacts
