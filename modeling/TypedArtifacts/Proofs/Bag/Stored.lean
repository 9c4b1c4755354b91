import TypedArtifacts.Proofs.Bag.Groups
import TypedArtifacts.Proofs.Definition.Conversion

namespace TypedArtifacts

variable {ρ : Type}

namespace Definition

def Flat (d : Definition ρ) : Prop :=
  ∀ p : Definition ρ, p.Within d → p.kind.isList = true → ∀ q ∈ p.parts, q.kind.isDict = false

lemma Flat.part {d p : Definition ρ} (h : d.Flat) (hp : p ∈ d.parts) : p.Flat :=
  fun q hq => h q (hq.trans (within_of_mem hp))

lemma storedType?_isSome {d : Definition ρ} (hp : d.Plain) (hd : d.kind.isDict = false) :
    ∃ t, d.storedType? = some t := by
  obtain ⟨hr, hb⟩ := hp d .self
  obtain ⟨t, kind⟩ := d
  cases kind <;> simp [storedType?, Kind.isRelation, Kind.isBlob, Kind.isDict] at hr hb hd ⊢

lemma storedType?_ne_dict {d : Definition ρ} {t : StoredType} (h : d.storedType? = some t) :
    t ≠ .dict := by
  rintro rfl
  obtain ⟨_, kind⟩ := d
  cases kind with
  | scalar s => cases s <;> simp [storedType?, Scalar.storedType] at h
  | _ => simp [storedType?] at h

lemma plain_typedItem (t : StoredType) (j : Json) (js : List Json) :
    BagValue.plainItems (typedItem t j :: js) = BagValue.plain (some t) j :: BagValue.plainItems js := by
  have hf : Dict.ofList [("type", Json.str t.name), ("value", j)] =
      [("type", .str t.name), ("value", j)] := by
    have hkeys : "type" < "value" := by decide
    exact Dict.ofList_sorted (List.pairwise_pair.2 hkeys)
  simp [typedItem, Json.record, hf, BagValue.plainItems, BagValue.plainValue, Json.constant?,
    StoredType.ofName?_name]

section

variable [Referent ρ]

lemma storedItems_eq (items : List (Value ρ)) (d : Definition ρ) (i : ℕ)
    (h : ∀ j v, items[j]? = some v → ∃ p t, d.itemAt? (i + j) = some p ∧ p.storedType? = some t ∧
      BagValue.plain (some t) (storedJson v p) = v.toJson) :
    BagValue.plainItems (storedItems items d i) = items.map Value.toJson := by
  induction items generalizing i with
  | nil => rfl
  | cons v vs ih =>
    obtain ⟨p, t, hp, ht, hv⟩ := h 0 v rfl
    rw [Nat.add_zero] at hp
    have hr := ih (i + 1) fun j w hw => by
      obtain ⟨p, t, hp, ht, hv⟩ := h (j + 1) w hw
      exact ⟨p, t, by rwa [Nat.add_right_comm, Nat.add_assoc] , ht, hv⟩
    simp only [storedItems, hp, ht]
    rw [plain_typedItem, hv, hr, List.map_cons]

lemma plain_storedJson_list {d : Definition ρ} (vs : List (Value ρ))
    (h : ∀ j v, vs[j]? = some v → ∃ p t, d.itemAt? j = some p ∧ p.storedType? = some t ∧
      BagValue.plain (some t) (storedJson v p) = v.toJson) :
    BagValue.plain (some .array) (storedJson (.list vs) d) = (Value.list vs).toJson := by
  rw [storedJson, BagValue.plain, if_pos rfl, storedItems_eq vs d 0 (by simpa using h),
    Value.toJson, Value.itemsToJson_eq]

theorem plain_storedJson {d : Definition ρ} {v : Value ρ} (h : d.Conforms v) (hp : d.Plain)
    (hf : d.Flat) {t : StoredType} (ht : d.storedType? = some t) :
    BagValue.plain (some t) (storedJson v d) = v.toJson := by
  induction h generalizing t with
  | @scalar _ s v hs =>
    obtain ⟨hfit, _⟩ := hs
    have hlist : ∀ vs, v ≠ .list vs := by
      rintro vs rfl
      cases s <;> simp [Scalar.shape, Shape.fits] at hfit
    have harr : ∀ js, v.toJson ≠ .arr js := by
      intro js
      cases v <;> simp [Value.toJson, Json.ofFloat, Blob.toJson, Json.record] at hlist ⊢
      split <;> simp
    rw [storedJson]
    · cases hj : v.toJson <;> simp [BagValue.plain]
      exact absurd hj (harr _)
    · exact hlist
  | @list r item vs _ ih =>
    obtain rfl : t = .array := by simpa [storedType?, eq_comm] using ht
    apply plain_storedJson_list vs
    intro j v hj
    have hm := List.mem_of_getElem? hj
    have hitem : item ∈ (mk r (.list item)).parts := List.mem_singleton_self item
    obtain ⟨u, hu⟩ := storedType?_isSome (hp.part hitem) (hf _ .self rfl item hitem)
    exact ⟨item, u, rfl, hu, ih v hm (hp.part hitem) (hf.part hitem) hu⟩
  | @tuple r items vs hl _ ih =>
    obtain rfl : t = .array := by simpa [storedType?, eq_comm] using ht
    apply plain_storedJson_list vs
    intro j v hj
    obtain ⟨hlt, hv⟩ := List.getElem?_eq_some_iff.1 hj
    have hi : items[j]? = some items[j] := List.getElem?_eq_getElem (hlt.trans_le hl)
    have hz : (items[j], v) ∈ items.zip vs := by
      refine List.mem_of_getElem? (i := j) ?_
      rw [List.getElem?_zip_eq_some]
      exact ⟨hi, hj⟩
    have hitem : items[j] ∈ (mk r (.tuple items)).parts := List.mem_of_getElem? hi
    obtain ⟨u, hu⟩ := storedType?_isSome (hp.part hitem) (hf _ .self rfl _ hitem)
    exact ⟨items[j], u, hi, hu, ih _ hz (hp.part hitem) (hf.part hitem) hu⟩
  | _ => simp [storedType?] at ht

end

end Definition

end TypedArtifacts
