import TypedArtifacts.Artifact
import TypedArtifacts.Proofs.Value

/-! Artifacts up to the difference between a stored value and a default. -/

namespace TypedArtifacts.Artifact

mutual

def settled : Artifact → Artifact
  | ⟨header, type, fields⟩ => ⟨header, type, settledFields fields⟩
  termination_by structural x => x

def settledFields : List (String × Field Artifact) → List (String × Field Artifact)
  | [] => []
  | (name, f) :: fields => (name, settledField f) :: settledFields fields
  termination_by structural x => x

def settledField : Field Artifact → Field Artifact
  | ⟨d, some v, _⟩ => ⟨d, some (settledValue v), false⟩
  | ⟨⟨⟨n, label, text, r, m, q, some v, ws, ms⟩, kind⟩, none, _⟩ =>
    ⟨⟨⟨n, label, text, r, m, q, some v, ws, ms⟩, kind⟩, some (settledValue v), false⟩
  | ⟨⟨⟨n, label, text, r, m, q, none, ws, ms⟩, kind⟩, none, _⟩ =>
    ⟨⟨⟨n, label, text, r, m, q, none, ws, ms⟩, kind⟩, none, false⟩
  termination_by structural x => x

def settledValue : Value Artifact → Value Artifact
  | .string s => .string s
  | .text s => .text s
  | .integer n => .integer n
  | .numeric x => .numeric x
  | .boolean b => .boolean b
  | .instant t => .instant t
  | .list vs => .list (settledItems vs)
  | .dict es => .dict (settledEntries es)
  | .blob b => .blob b
  | .artifact a => .artifact (settled a)
  termination_by structural x => x

def settledItems : List (Value Artifact) → List (Value Artifact)
  | [] => []
  | v :: vs => settledValue v :: settledItems vs
  termination_by structural x => x

def settledEntries : List (String × Value Artifact) → List (String × Value Artifact)
  | [] => []
  | (k, v) :: es => (k, settledValue v) :: settledEntries es
  termination_by structural x => x

end

lemma settledItems_eq (vs : List (Value Artifact)) : settledItems vs = vs.map settledValue := by
  induction vs with
  | nil => rfl
  | cons v vs ih => rw [settledItems, ih, List.map_cons]

lemma settledEntries_eq (es : List (String × Value Artifact)) :
    settledEntries es = es.map fun e => (e.1, settledValue e.2) := by
  induction es with
  | nil => rfl
  | cons e es ih => rw [settledEntries, ih, List.map_cons]

lemma settledField_eq (f : Field Artifact) :
    settledField f = ⟨f.definition, f.value?.map settledValue, false⟩ := by
  obtain ⟨⟨⟨n, label, text, r, m, q, default, ws, ms⟩, kind⟩, stored, assigned⟩ := f
  cases stored with
  | some v => rfl
  | none => cases default <;> rfl

lemma settledFields_eq (fields : List (String × Field Artifact)) :
    settledFields fields = fields.map fun e => (e.1, settledField e.2) := by
  induction fields with
  | nil => rfl
  | cons e fields ih => rw [settledFields, ih, List.map_cons]

lemma settled_eq (a : Artifact) :
    a.settled = { a with fields := a.fields.map fun e => (e.1, settledField e.2) } := by
  obtain ⟨header, type, fields⟩ := a
  rw [settled, settledFields_eq]

def Refers (t a : Artifact) : Prop :=
  ∃ e ∈ a.fields, ∃ v, e.2.value? = some v ∧ v.Refers t

lemma sizeOf_within {u v : Value Artifact} (h : u.Within v) : sizeOf u ≤ sizeOf v := by
  induction h with
  | self => exact le_rfl
  | child hm _ ih => exact ih.trans (Value.sizeOf_child hm).le

lemma sizeOf_value {f : Field Artifact} {v : Value Artifact} (h : f.value? = some v) :
    sizeOf v < sizeOf f := by
  obtain ⟨⟨⟨n, label, text, r, m, q, default, ws, ms⟩, kind⟩, stored, assigned⟩ := f
  cases stored with
  | some w =>
    obtain rfl : w = v := Option.some.inj h
    simp
    omega
  | none =>
    obtain rfl : default = some v := h
    simp
    omega

lemma sizeOf_refers {t a : Artifact} (h : t.Refers a) : sizeOf t < sizeOf a := by
  obtain ⟨e, he, v, hv, ht⟩ := h
  obtain ⟨header, type, fields⟩ := a
  obtain ⟨name, f⟩ := e
  have hfields := List.sizeOf_lt_of_mem (show (name, f) ∈ fields from he)
  have hvalue := sizeOf_value hv
  have hwithin := sizeOf_within ht
  simp only [mk.sizeOf_spec, Prod.mk.sizeOf_spec, Value.artifact.sizeOf_spec] at hfields hvalue hwithin ⊢
  omega

theorem induction {P : Artifact → Prop} (h : ∀ a, (∀ t, t.Refers a → P t) → P a) (a : Artifact) :
    P a :=
  h a fun t _ => induction h t
  termination_by sizeOf a
  decreasing_by exact sizeOf_refers ‹_›

lemma sameField_eq (f : Field Artifact) (v : Option (Value Artifact)) :
    sameField f v = match f.value?, v with
      | some u, some w => sameValue u w
      | none, none => true
      | _, _ => false := by
  obtain ⟨⟨⟨n, label, text, r, m, q, default, ws, ms⟩, kind⟩, stored, assigned⟩ := f
  cases stored with
  | some u => cases v <;> rfl
  | none => cases default <;> cases v <;> rfl

lemma value?_settledField (f : Field Artifact) :
    (settledField f).value? = f.value?.map settledValue := by
  rw [settledField_eq]
  obtain ⟨d, stored, assigned⟩ := f
  cases stored with
  | some v => rfl
  | none => cases hd : d.default <;> simp [Field.value?, hd]

lemma sameItems_settled {vs : List (Value Artifact)}
    (h : ∀ v ∈ vs, ∀ w, sameValue v w = sameValue (settledValue v) (settledValue w))
    (ws : List (Value Artifact)) :
    sameItems vs ws = sameItems (vs.map settledValue) (ws.map settledValue) := by
  induction vs generalizing ws with
  | nil => cases ws <;> rfl
  | cons v vs ih =>
    cases ws with
    | nil => rfl
    | cons w ws =>
      rw [List.map_cons, List.map_cons, sameItems, sameItems, h v List.mem_cons_self,
        ih fun u hu => h u (List.mem_cons_of_mem _ hu)]

lemma sameEntries_settled {es : List (String × Value Artifact)}
    (h : ∀ e ∈ es, ∀ w, sameValue e.2 w = sameValue (settledValue e.2) (settledValue w))
    (fs : List (String × Value Artifact)) :
    sameEntries es fs = sameEntries (es.map fun e => (e.1, settledValue e.2))
      (fs.map fun e => (e.1, settledValue e.2)) := by
  induction es generalizing fs with
  | nil => cases fs <;> rfl
  | cons e es ih =>
    cases fs with
    | nil => rfl
    | cons f fs =>
      rw [List.map_cons, List.map_cons, sameEntries, sameEntries, h e List.mem_cons_self,
        ih fun u hu => h u (List.mem_cons_of_mem _ hu)]

lemma sameValue_settledValue (v : Value Artifact)
    (h : ∀ t, v.Refers t → ∀ b, same t b = same t.settled b.settled) (w : Value Artifact) :
    sameValue v w = sameValue (settledValue v) (settledValue w) := by
  induction v using Value.induction generalizing w with
  | h v ih =>
    have hchild : ∀ u ∈ v.children, ∀ w, sameValue u w = sameValue (settledValue u) (settledValue w) :=
      fun u hu => ih u hu fun t ht => h t (ht.trans (Value.within_of_mem hu))
    cases v with
    | list vs =>
      cases w with
      | list ws =>
        simp only [settledValue, settledItems_eq, sameValue]
        exact sameItems_settled hchild ws
      | _ => simp [settledValue, sameValue]
    | dict es =>
      cases w with
      | dict fs =>
        simp only [settledValue, settledEntries_eq, sameValue]
        exact sameEntries_settled (fun e he => hchild e.2 (Value.mem_children_dict he)) fs
      | _ => simp [settledValue, sameValue]
    | artifact t =>
      cases w with
      | artifact b =>
        simp only [settledValue, sameValue]
        exact h t .self b
      | _ => simp [settledValue, sameValue]
    | _ => cases w <;> simp [settledValue, sameValue]

lemma sameField_settled {f : Field Artifact}
    (h : ∀ v, f.value? = some v → ∀ w, sameValue v w = sameValue (settledValue v) (settledValue w))
    (v : Option (Value Artifact)) :
    sameField f v = sameField (settledField f) (v.map settledValue) := by
  rw [sameField_eq, sameField_eq, value?_settledField]
  cases hf : f.value? with
  | none => cases v <;> rfl
  | some u =>
    cases v with
    | none => rfl
    | some w => exact h u hf w

lemma sameFields_settled {fields : List (String × Field Artifact)}
    (h : ∀ e ∈ fields, ∀ v, e.2.value? = some v →
      ∀ w, sameValue v w = sameValue (settledValue v) (settledValue w))
    (fields' : List (String × Field Artifact)) :
    sameFields fields fields' = sameFields (fields.map fun e => (e.1, settledField e.2))
      (fields'.map fun e => (e.1, settledField e.2)) := by
  induction fields generalizing fields' with
  | nil => cases fields' <;> rfl
  | cons e fields ih =>
    cases fields' with
    | nil => rfl
    | cons e' fields' =>
      rw [List.map_cons, List.map_cons, sameFields, sameFields,
        sameField_settled (h e List.mem_cons_self), value?_settledField,
        ih fun x hx => h x (List.mem_cons_of_mem _ hx)]

theorem same_settled (a b : Artifact) : same a b = same a.settled b.settled := by
  induction a using Artifact.induction generalizing b with
  | h a ih =>
    have hfields := @sameFields_settled a.fields (fun e he v hv =>
      sameValue_settledValue v fun t ht => ih t ⟨e, he, v, hv, ht⟩) b.fields
    obtain ⟨header, type, fields⟩ := a
    obtain ⟨header', type', fields'⟩ := b
    simp only [settled_eq, same]
    rw [hfields]

inductive Throughout (P : Artifact → Prop) : Artifact → Prop
  | intro {a : Artifact} : P a → (∀ t : Artifact, t.Refers a → Throughout P t) → Throughout P a

lemma Throughout.self {P : Artifact → Prop} {a : Artifact} (h : a.Throughout P) : P a := by
  cases h with
  | intro hp _ => exact hp

lemma Throughout.target {P : Artifact → Prop} {a t : Artifact} (h : a.Throughout P)
    (ht : t.Refers a) : t.Throughout P := by
  cases h with
  | intro _ hr => exact hr t ht

lemma Throughout.mono {P Q : Artifact → Prop} (hpq : ∀ a, P a → Q a) {a : Artifact}
    (h : a.Throughout P) : a.Throughout Q := by
  induction h with
  | intro hp _ ih => exact .intro (hpq _ hp) ih

def Finite (a : Artifact) : Prop :=
  ∀ e ∈ a.fields, ∀ v, e.2.value? = some v → ∀ x, (Value.numeric x).Within v → x.isFinite = true

lemma sameItems_self {vs : List (Value Artifact)} (h : ∀ v ∈ vs, sameValue v v = true) :
    sameItems vs vs = true := by
  induction vs with
  | nil => rfl
  | cons v vs ih =>
    rw [sameItems, h v List.mem_cons_self, ih fun u hu => h u (List.mem_cons_of_mem _ hu)]
    rfl

lemma sameEntries_self {es : List (String × Value Artifact)}
    (h : ∀ e ∈ es, sameValue e.2 e.2 = true) : sameEntries es es = true := by
  induction es with
  | nil => rfl
  | cons e es ih =>
    rw [sameEntries, h e List.mem_cons_self, ih fun u hu => h u (List.mem_cons_of_mem _ hu)]
    simp

lemma equals_self {x : Binary64} (h : x.isFinite = true) : x.equals x = true := by
  cases x with
  | finite s m e => exact Binary64.equals_finite_self s m e
  | _ => cases h

lemma sameValue_self (v : Value Artifact)
    (hx : ∀ x, (Value.numeric x).Within v → x.isFinite = true)
    (ht : ∀ t, v.Refers t → same t t = true) : sameValue v v = true := by
  induction v using Value.induction with
  | h v ih =>
    have hchild : ∀ u ∈ v.children, sameValue u u = true := fun u hu =>
      ih u hu (fun x hm => hx x (hm.trans (Value.within_of_mem hu)))
        fun t hm => ht t (hm.trans (Value.within_of_mem hu))
    cases v with
    | numeric x =>
      rw [sameValue]
      exact equals_self (hx x .self)
    | list vs =>
      rw [sameValue]
      exact sameItems_self hchild
    | dict es =>
      rw [sameValue]
      exact sameEntries_self fun e he => hchild e.2 (Value.mem_children_dict he)
    | artifact t =>
      rw [sameValue]
      exact ht t .self
    | _ => simp [sameValue]

lemma sameFields_self {fields : List (String × Field Artifact)}
    (h : ∀ e ∈ fields, ∀ v, e.2.value? = some v → sameValue v v = true) :
    sameFields fields fields = true := by
  induction fields with
  | nil => rfl
  | cons e fields ih =>
    have hfield : sameField e.2 e.2.value? = true := by
      rw [sameField_eq]
      cases hv : e.2.value? with
      | none => rfl
      | some v => exact h e List.mem_cons_self v hv
    rw [sameFields, hfield, ih fun x hx => h x (List.mem_cons_of_mem _ hx)]
    simp

theorem same_self {a : Artifact} (h : a.Throughout Finite) : same a a = true := by
  induction h with
  | @intro a hf _ ih =>
    have hfields := @sameFields_self a.fields fun e he v hv =>
      sameValue_self v (hf e he v hv) fun t ht => ih t ⟨e, he, v, hv, ht⟩
    obtain ⟨header, type, fields⟩ := a
    simp only [same]
    rw [hfields]
    simp

end TypedArtifacts.Artifact
