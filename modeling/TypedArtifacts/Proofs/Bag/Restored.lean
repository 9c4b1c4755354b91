import TypedArtifacts.Proofs.Bag.Remnant

/-! What is read again of a value that was stored. -/

namespace TypedArtifacts

variable {ρ : Type}

namespace Definition

def restoreScalar? : Value ρ → Option (Option (Value ρ))
  | .numeric x => some (if x.isFinite then some (.numeric x) else none)
  | .instant t => (Instant.parse? t.micros).map fun u => some (.instant u)
  | v => some (some v)

def restoreEntries? (restore : String → Value ρ → Option (Option (Value ρ))) :
    List (String × Value ρ) → Option (List (String × Value ρ))
  | [] => some []
  | (key, v) :: es => do
    let w ← restore key v
    let ws ← restoreEntries? restore es
    return match w with
      | none => ws
      | some w => (key, w) :: ws

def restoredDict (given left : List (String × Value ρ)) : Option (Value ρ) :=
  if left.isEmpty && !given.isEmpty then none else some (.dict left)

mutual

def restore? : Definition ρ → Value ρ → Option (Option (Value ρ))
  | ⟨_, .scalar _⟩, v => restoreScalar? v
  | ⟨_, .list item⟩, .list vs =>
    if item.storedType?.isSome then
      (vs.mapM fun v => (item.restore? v).join).map fun ws => some (.list ws)
    else some (some (.list []))
  | ⟨_, .tuple items⟩, .list vs => (restoreItems? items vs).map fun ws => some (.list ws)
  | ⟨_, .dict value⟩, .dict es =>
    (restoreEntries? (fun _ v => value.restore? v) es).map (restoredDict es)
  | ⟨_, .composite keys⟩, .dict es => (restoreEntries? (restoreKey? keys) es).map (restoredDict es)
  | _, _ => some none

def restoreItems? : List (Definition ρ) → List (Value ρ) → Option (List (Value ρ))
  | _, [] => some []
  | [], _ :: _ => none
  | d :: ds, v :: vs =>
    if d.storedType?.isSome then do
      let w ← (d.restore? v).join
      let ws ← restoreItems? ds vs
      return w :: ws
    else if (ds.zip vs).all fun e => e.1.storedType?.isNone then some []
    else none

def restoreKey? : List (String × Definition ρ) → String → Value ρ → Option (Option (Value ρ))
  | [], _, _ => some none
  | (k, d) :: rest, key, v => if key = k then d.restore? v else restoreKey? rest key v

end

section

variable [Referent ρ]

lemma remnant_of_storedType? {d : Definition ρ} {t : StoredType} (h : d.storedType? = some t)
    (v : Value ρ) : d.remnant v = BagValue.plain (some t) (storedJson v d) := by
  have hd : d.kind.isDict = false := by
    obtain ⟨_, kind⟩ := d
    cases kind <;> simp [storedType?, Kind.isDict] at h ⊢
  simp [remnant_leaf hd, h]

lemma remnant_scalar {t : Traits ρ} {s : Scalar} {v : Value ρ} (h : s.Holds v) :
    remnant ⟨t, .scalar s⟩ v = v.toJson := by
  rw [remnant_of_storedType? (t := s.storedType) rfl]
  obtain ⟨hfit, _⟩ := h
  have hplain : ∀ x : Binary64, ∀ t, BagValue.plain t (Json.ofFloat x) = Json.ofFloat x := by
    intro x t
    rw [Json.ofFloat]
    split <;> rfl
  cases s <;> cases v <;> simp [Scalar.shape, Shape.fits] at hfit <;>
    simp [storedJson, Value.toJson, BagValue.plain, hplain]

lemma plainItems_list {t : Traits ρ} {item : Definition ρ} (vs : List (Value ρ)) (i : ℕ) :
    BagValue.plainItems (storedItems vs ⟨t, .list item⟩ i) =
      if item.storedType?.isSome then vs.map item.remnant else [] := by
  induction vs generalizing i with
  | nil => cases item.storedType? <;> rfl
  | cons v vs ih =>
    have hi : itemAt? ⟨t, .list item⟩ i = some item := rfl
    rw [storedItems, hi]
    cases ht : item.storedType? with
    | none => simpa [ht] using ih (i + 1)
    | some u => simp [ht, plain_typedItem, ih, remnant_of_storedType? ht]

def remnantItems (items : List (Definition ρ)) (vs : List (Value ρ)) : List Json :=
  (items.zip vs).filterMap fun e => e.1.storedType?.map fun _ => e.1.remnant e.2

lemma remnantItems_kept {d : Definition ρ} {t : StoredType} (ht : d.storedType? = some t)
    (ds : List (Definition ρ)) (v : Value ρ) (vs : List (Value ρ)) :
    remnantItems (d :: ds) (v :: vs) = d.remnant v :: remnantItems ds vs := by
  simp [remnantItems, ht]

lemma remnantItems_left_out {d : Definition ρ} (ht : d.storedType? = none)
    (ds : List (Definition ρ)) (v : Value ρ) (vs : List (Value ρ)) :
    remnantItems (d :: ds) (v :: vs) = remnantItems ds vs := by
  simp [remnantItems, ht]

lemma plainItems_tuple {t : Traits ρ} {items : List (Definition ρ)} (vs : List (Value ρ)) (i : ℕ) :
    BagValue.plainItems (storedItems vs ⟨t, .tuple items⟩ i) = remnantItems (items.drop i) vs := by
  induction vs generalizing i with
  | nil => simp [storedItems, BagValue.plainItems, remnantItems]
  | cons v vs ih =>
    have hi : itemAt? ⟨t, .tuple items⟩ i = items[i]? := rfl
    rw [storedItems, hi]
    by_cases hlt : i < items.length
    · rw [List.getElem?_eq_getElem hlt, List.drop_eq_getElem_cons hlt]
      cases ht : items[i].storedType? with
      | none =>
        rw [remnantItems_left_out ht, ← ih]
        simp [ht]
      | some u =>
        rw [remnantItems_kept ht, ← ih, remnant_of_storedType? ht]
        simp [ht, plain_typedItem]
    · have hle : items.length ≤ i := Nat.le_of_not_lt hlt
      have hpast := ih (i + 1)
      rw [List.drop_eq_nil_of_le (Nat.le_succ_of_le hle)] at hpast
      simpa [List.getElem?_eq_none hle, List.drop_eq_nil_of_le hle, remnantItems] using hpast

lemma remnant_list (t : Traits ρ) (item : Definition ρ) (vs : List (Value ρ)) :
    remnant ⟨t, .list item⟩ (.list vs) =
      .arr (if item.storedType?.isSome then vs.map item.remnant else []) := by
  rw [remnant_of_storedType? (t := .array) rfl, storedJson, BagValue.plain, if_pos rfl,
    plainItems_list]

lemma remnant_tuple (t : Traits ρ) (items : List (Definition ρ)) (vs : List (Value ρ)) :
    remnant ⟨t, .tuple items⟩ (.list vs) =
      .arr (remnantItems items vs) := by
  rw [remnant_of_storedType? (t := .array) rfl, storedJson, BagValue.plain, if_pos rfl,
    plainItems_tuple, List.drop_zero]

lemma fromJsonAs_scalar {t : Traits ρ} {s : Scalar} {v : Value ρ} (h : s.Holds v) (place : String) :
    (fromJsonAs ⟨t, .scalar s⟩ place v.toJson).toOption = restoreScalar? v := by
  obtain ⟨hfit, hn⟩ := h
  cases s <;> cases v <;> simp [Scalar.shape, Shape.fits, normalizeScalar] at hfit hn
  case integer.integer n =>
    simp [fromJsonAs, kindFromJson, scalarFromJson?, Value.toJson,
      Json.int64?_int (toInt_mem n).1 (toInt_mem n).2, restoreScalar?, Except.map, Except.toOption]
  case numeric.numeric x =>
    rw [Value.toJson, Json.ofFloat, restoreScalar?]
    split <;> rfl
  case datetime.instant t =>
    simp only [Value.toJson, fromJsonAs, kindFromJson, scalarFromJson?, Json.str?, restoreScalar?]
    cases hp : Instant.parse? t.micros <;> simp [hp, Except.map, Except.toOption]
  all_goals rfl

end

section

variable [Referent ρ]

lemma eachJsonItem_remnants {item : Definition ρ} {vs : List (Value ρ)}
    (h : ∀ v ∈ vs, ∀ place, (item.fromJsonAs place (item.remnant v)).toOption = item.restore? v)
    (place : String) (i : ℕ) :
    (eachJsonItem (fun place j => item.fromJsonAs place j) place i (vs.map item.remnant)).toOption =
      vs.mapM fun v => (item.restore? v).join := by
  induction vs generalizing i with
  | nil => rfl
  | cons v vs ih =>
    have hv := h v List.mem_cons_self (itemPlace place i)
    have hrest := ih (fun w hw => h w (List.mem_cons_of_mem _ hw)) (i + 1)
    rw [List.map_cons, eachJsonItem, List.mapM_cons, ← hv, ← hrest, Outcome.toOption_bind]
    cases item.fromJsonAs (itemPlace place i) (item.remnant v) with
    | error e => rfl
    | ok w =>
      cases w with
      | none => rfl
      | some w => exact Outcome.toOption_bind _ _

end

lemma fromJsonAs_ne_none {d : Definition ρ} {place : String} {j : Json} (h : j ≠ .null) :
    d.fromJsonAs place j ≠ .ok none := by
  rw [fromJsonAs_of_ne_null h]
  cases kindFromJson d.kind place j <;> simp [Except.map]

lemma mem_present {key : String} {j : Json} {e : String × Json} (h : e ∈ Group.present key j) :
    e = (key, j) ∧ j ≠ .null := by
  cases j with
  | null => cases h
  | _ => exact ⟨List.mem_singleton.1 h, nofun⟩

lemma eachJsonField_remnants {convert : String → Json → Except ValidationError (Option (Value ρ))}
    {left : String → Value ρ → Json} {restore : String → Value ρ → Option (Option (Value ρ))}
    {es : List (String × Value ρ)} (hnull : ∀ e ∈ es, convert e.1 .null = .ok none)
    (h : ∀ e ∈ es, (convert e.1 (left e.1 e.2)).toOption = restore e.1 e.2) :
    (eachJsonField convert (es.flatMap fun e => Group.present e.1 (left e.1 e.2))).toOption =
      restoreEntries? restore es := by
  induction es with
  | nil => rfl
  | cons e es ih =>
    have he := h e List.mem_cons_self
    have hrest := ih (fun x hx => hnull x (List.mem_cons_of_mem _ hx))
      fun x hx => h x (List.mem_cons_of_mem _ hx)
    rw [List.flatMap_cons, restoreEntries?, ← he, ← hrest]
    by_cases hj : left e.1 e.2 = .null
    · rw [hj, hnull e List.mem_cons_self]
      exact (Option.bind_fun_some _).symm
    · have hpresent : Group.present e.1 (left e.1 e.2) = [(e.1, left e.1 e.2)] := by
        cases hl : left e.1 e.2 with
        | null => exact absurd hl hj
        | _ => rfl
      rw [hpresent, List.singleton_append, eachJsonField]
      simp only [Outcome.toOption_bind]
      rfl

lemma eachJsonField_eq_nil {convert : String → Json → Except ValidationError (Option (Value ρ))}
    {fields : List (String × Json)} (h : ∀ e ∈ fields, convert e.1 e.2 ≠ .ok none)
    (hnil : eachJsonField convert fields = .ok []) : fields = [] := by
  cases fields with
  | nil => rfl
  | cons e fields =>
    obtain ⟨v, hv, hnil⟩ := Outcome.bind_eq_ok.1 hnil
    obtain ⟨ws, _, hnil⟩ := Outcome.bind_eq_ok.1 hnil
    cases v with
    | none => exact absurd hv (h e List.mem_cons_self)
    | some w => cases Except.ok.inj hnil

lemma fromJsonAs_close {d : Definition ρ} {place : String}
    {convert : String → Json → Except ValidationError (Option (Value ρ))}
    (hkind : ∀ fields, kindFromJson d.kind place (.obj fields) =
      (eachJsonField convert fields).map .dict)
    {left : String → Value ρ → Json} {restore : String → Value ρ → Option (Option (Value ρ))}
    {es : List (String × Value ρ)} (hnull : ∀ e ∈ es, convert e.1 .null = .ok none)
    (hset : ∀ e ∈ es, left e.1 e.2 ≠ .null → convert e.1 (left e.1 e.2) ≠ .ok none)
    (h : ∀ e ∈ es, (convert e.1 (left e.1 e.2)).toOption = restore e.1 e.2) :
    (d.fromJsonAs place
      (Group.close es.isEmpty (es.flatMap fun e => Group.present e.1 (left e.1 e.2)))).toOption =
        (restoreEntries? restore es).map (restoredDict es) := by
  have hentries := eachJsonField_remnants hnull h
  have hfields : ∀ x ∈ es.flatMap fun e => Group.present e.1 (left e.1 e.2),
      convert x.1 x.2 ≠ .ok none := by
    intro x hx
    obtain ⟨e, he, hx⟩ := List.mem_flatMap.1 hx
    obtain ⟨rfl, hj⟩ := mem_present hx
    exact hset e he hj
  generalize (es.flatMap fun e => Group.present e.1 (left e.1 e.2)) = fields at hentries hfields
  rw [← hentries, Group.close]
  split
  · rename_i hc
    obtain ⟨hf, he⟩ := Bool.and_eq_true_iff.1 hc
    obtain rfl := List.isEmpty_iff.1 hf
    rw [fromJsonAs_null]
    simp [eachJsonField, Except.toOption, restoredDict, he]
  · rename_i hc
    rw [fromJsonAs_of_ne_null (by simp), hkind]
    cases hws : eachJsonField convert fields with
    | error e => rfl
    | ok ws =>
      have hleft : (ws.isEmpty && !es.isEmpty) = false := by
        cases ws with
        | nil =>
          obtain rfl := eachJsonField_eq_nil hfields hws
          simpa using hc
        | cons w ws => rfl
      simp [Except.map, Except.toOption, restoredDict, hleft]

lemma restoreKey?_lookup {keys : List (String × Definition ρ)} {key : String} {d : Definition ρ}
    (h : keys.lookup key = some d) (v : Value ρ) : restoreKey? keys key v = d.restore? v := by
  apply Dict.search_of_lookup _ h
  intro _ _ _
  rw [restoreKey?]

section

variable [Referent ρ]

lemma refused_remnant {d p : Definition ρ} (hd : d.storedType? = none) {t : StoredType}
    (hp : p.storedType? = some t) {v : Value ρ} (hv : p.Conforms v) (place : String)
    (w : Value ρ) : d.fromJsonAs place (p.remnant v) ≠ .ok (some w) := by
  have hobj : (p.remnant v).obj? = none := by
    cases hv with
    | @scalar _ s _ hs =>
      have hfloat : ∀ x, (Json.ofFloat x).obj? = none := by
        intro x
        rw [Json.ofFloat]
        split <;> rfl
      rw [remnant_scalar hs]
      cases s <;> cases v <;> simp [Scalar.Holds, Scalar.shape, Shape.fits] at hs <;>
        first | rfl | exact hfloat _
    | list => rw [remnant_list]; rfl
    | tuple => rw [remnant_tuple]; rfl
    | _ => simp [storedType?] at hp
  by_cases hj : p.remnant v = .null
  · rw [hj, fromJsonAs_null]
    simp
  · rw [fromJsonAs_of_ne_null hj]
    obtain ⟨_, kind⟩ := d
    cases kind with
    | scalar | list | tuple => simp [storedType?] at hd
    | dict | composite => simp [kindFromJson, hobj, Except.map]
    | relation | blob => simp [kindFromJson, Except.map]

lemma itemsFromJson_left_out {d : Definition ρ} {ds : List (Definition ρ)} {vs : List (Value ρ)}
    (hd : d.storedType? = none) (hc : ∀ e ∈ ds.zip vs, e.1.Conforms e.2) (place : String) (i : ℕ) :
    (itemsFromJson (d :: ds) place i (remnantItems ds vs)).toOption =
      if (ds.zip vs).all fun e => e.1.storedType?.isNone then some [] else none := by
  cases hkept : remnantItems ds vs with
  | nil =>
    have hall : ((ds.zip vs).all fun e => e.1.storedType?.isNone) = true := by
      refine List.all_eq_true.2 fun e he => ?_
      simpa using List.filterMap_eq_nil_iff.1 hkept e he
    rw [if_pos hall]
    rfl
  | cons j js =>
    have hj : j ∈ remnantItems ds vs := hkept ▸ List.mem_cons_self
    obtain ⟨e, he, hj⟩ := List.mem_filterMap.1 hj
    obtain ⟨t, hp, rfl⟩ := Option.map_eq_some_iff.1 hj
    have hall : ¬ ((ds.zip vs).all fun e => e.1.storedType?.isNone) = true := by
      intro hall
      have hnone := List.all_eq_true.1 hall e he
      simp [hp] at hnone
    have hrefused := refused_remnant hd hp (hc e he) (itemPlace place i)
    rw [if_neg hall, itemsFromJson, Outcome.toOption_bind]
    cases hread : d.fromJsonAs (itemPlace place i) (e.1.remnant e.2) with
    | error fault => rfl
    | ok w =>
      cases w with
      | none => rfl
      | some w => exact absurd hread (hrefused w)

lemma itemsFromJson_remnants {items : List (Definition ρ)} {vs : List (Value ρ)}
    (hl : vs.length ≤ items.length) (hc : ∀ e ∈ items.zip vs, e.1.Conforms e.2)
    (h : ∀ e ∈ items.zip vs, ∀ place,
      (e.1.fromJsonAs place (e.1.remnant e.2)).toOption = e.1.restore? e.2)
    (place : String) (i : ℕ) :
    (itemsFromJson items place i (remnantItems items vs)).toOption = restoreItems? items vs := by
  induction items generalizing vs i with
  | nil =>
    obtain rfl := List.length_eq_zero_iff.1 (Nat.le_zero.1 hl)
    rfl
  | cons d ds ih =>
    cases vs with
    | nil => rfl
    | cons v vs =>
      rw [List.zip_cons_cons, List.forall_mem_cons] at hc h
      rw [restoreItems?]
      cases ht : d.storedType? with
      | none =>
        rw [remnantItems_left_out ht]
        exact itemsFromJson_left_out ht hc.2 place i
      | some t =>
        have hrest := ih (by simpa using hl) hc.2 h.2 (i + 1)
        rw [remnantItems_kept ht, itemsFromJson, Outcome.toOption_bind, ← h.1 (itemPlace place i),
          ← hrest]
        cases d.fromJsonAs (itemPlace place i) (d.remnant v) with
        | error e => rfl
        | ok w =>
          cases w with
          | none => rfl
          | some w => exact Outcome.toOption_bind _ _

theorem fromJsonAs_remnant {d : Definition ρ} {v : Value ρ} (h : d.Conforms v) (place : String) :
    (d.fromJsonAs place (d.remnant v)).toOption = d.restore? v := by
  induction h generalizing place with
  | scalar hs =>
    rw [remnant_scalar hs, fromJsonAs_scalar hs, restore?]
  | @list t item vs _ ih =>
    rw [remnant_list, fromJsonAs_of_ne_null (by simp), restore?]
    simp only [kindFromJson, Json.arr?, Outcome.toOption_map]
    split
    · rw [eachJsonItem_remnants fun v hv place => ih v hv place, Option.map_map]
      rfl
    · rfl
  | @tuple t items vs hl hc ih =>
    rw [remnant_tuple, fromJsonAs_of_ne_null (by simp), restore?]
    simp only [kindFromJson, Json.arr?, Outcome.toOption_map]
    rw [itemsFromJson_remnants hl hc fun e he place => ih e he place, Option.map_map]
    rfl
  | @dict t value es _ _ ih =>
    have hkind : ∀ fields, kindFromJson (.dict value) place (.obj fields) = (eachJsonField
        (fun key j => value.fromJsonAs (keyPlace place key) j) fields).map .dict := fun _ => rfl
    rw [remnant_dict rfl, restore?]
    refine fromJsonAs_close hkind (fun e he => ?_) (fun e he hj => ?_) fun e he => ?_
    · rw [fromJsonAs_null]
    · exact fromJsonAs_ne_none hj
    · exact ih e he _
  | @composite t keys es _ hdecl _ ih =>
    have hkind : ∀ fields, kindFromJson (.composite keys) place (.obj fields) = (eachJsonField
        (fun key j => keyFromJson keys place key j) fields).map .dict := fun _ => rfl
    have hkey : ∀ e ∈ es, ∃ p, keys.lookup e.1 = some p ∧
        ∀ j, keyFromJson keys place e.1 j = p.fromJsonAs (keyPlace place e.1) j := by
      intro e he
      obtain ⟨p, hp⟩ := Option.isSome_iff_exists.1 (hdecl e he)
      exact ⟨p, hp, keyFromJson_lookup hp place⟩
    rw [remnant_dict rfl, restore?]
    refine fromJsonAs_close hkind (fun e he => ?_) (fun e he hj => ?_) fun e he => ?_
    all_goals obtain ⟨p, hp, hread⟩ := hkey e he
    · rw [hread, fromJsonAs_null]
    · rw [hread]
      exact fromJsonAs_ne_none hj
    · rw [hread, remnantAt_of_valueAt? (d := ⟨t, .composite keys⟩) hp, restoreKey?_lookup hp]
      exact ih e he p hp _
  | relation => rfl
  | blob => rfl

end

end Definition

end TypedArtifacts
