import TypedArtifacts.Proofs.Dict
import TypedArtifacts.Proofs.Instant.Micros
import TypedArtifacts.Value

namespace TypedArtifacts.Value

variable {ρ : Type}

def children : Value ρ → List (Value ρ)
  | .list vs => vs
  | .dict es => Dict.values es
  | _ => []

inductive Within (w : Value ρ) : Value ρ → Prop
  | self : Within w w
  | child {u v : Value ρ} : u ∈ v.children → Within w u → Within w v

lemma Within.trans {u v w : Value ρ} (h : u.Within v) (h' : v.Within w) : u.Within w := by
  induction h' with
  | self => exact h
  | child hm _ ih => exact .child hm ih

lemma within_of_mem {u v : Value ρ} (h : u ∈ v.children) : u.Within v :=
  .child h .self

lemma mem_children_dict {e : String × Value ρ} {es : List (String × Value ρ)} (h : e ∈ es) :
    e.2 ∈ (Value.dict es).children :=
  List.mem_map_of_mem h

lemma sizeOf_child [SizeOf ρ] {u v : Value ρ} (h : u ∈ v.children) : sizeOf u < sizeOf v := by
  cases v with
  | list vs =>
    have hs := List.sizeOf_lt_of_mem (show u ∈ vs from h)
    simp only [list.sizeOf_spec]
    omega
  | dict es =>
    obtain ⟨⟨k, w⟩, he, rfl⟩ := List.mem_map.1 h
    have hs := List.sizeOf_lt_of_mem he
    simp only [dict.sizeOf_spec, Prod.mk.sizeOf_spec] at hs ⊢
    omega
  | _ => simp [children] at h

theorem induction {P : Value ρ → Prop} (h : ∀ v, (∀ w ∈ v.children, P w) → P v) (v : Value ρ) :
    P v :=
  h v fun w _ => induction h w
  termination_by sizeOf v
  decreasing_by exact sizeOf_child ‹_›

def Ordered (v : Value ρ) : Prop :=
  ∀ es, (Value.dict es).Within v → Dict.Sorted es

lemma Ordered.child {u v : Value ρ} (hv : v.Ordered) (h : u ∈ v.children) : u.Ordered :=
  fun es he => hv es (he.trans (within_of_mem h))

lemma ordered_of_children {v : Value ρ} (hs : ∀ es, v = .dict es → Dict.Sorted es)
    (h : ∀ u ∈ v.children, u.Ordered) : v.Ordered := by
  intro es he
  cases he with
  | self => exact hs es rfl
  | child hm he => exact h _ hm es he

structure Expressible (v : Value ρ) : Prop where
  finite : ∀ x, (Value.numeric x).Within v → x.isFinite = true
  inMicros : ∀ t, (Value.instant t).Within v → t.InMicros

lemma Expressible.child {u v : Value ρ} (hv : v.Expressible) (h : u ∈ v.children) :
    u.Expressible where
  finite x hx := hv.finite x (hx.trans (within_of_mem h))
  inMicros t ht := hv.inMicros t (ht.trans (within_of_mem h))

lemma expressible_of_children {v : Value ρ} (hf : ∀ x, v = .numeric x → x.isFinite = true)
    (hm : ∀ t, v = .instant t → t.InMicros) (h : ∀ u ∈ v.children, u.Expressible) :
    v.Expressible where
  finite x hx := by
    cases hx with
    | self => exact hf x rfl
    | child hu hx => exact (h _ hu).finite x hx
  inMicros t ht := by
    cases ht with
    | self => exact hm t rfl
    | child hu ht => exact (h _ hu).inMicros t ht

def Refers (a : ρ) (v : Value ρ) : Prop :=
  (Value.artifact a).Within v

lemma refers_cases {a : ρ} {v : Value ρ} (h : v.Refers a) :
    v = .artifact a ∨ ∃ u ∈ v.children, u.Refers a := by
  cases h with
  | self => exact Or.inl rfl
  | child hm h => exact Or.inr ⟨_, hm, h⟩

@[simp] lemma refers_artifact {a b : ρ} : (Value.artifact b).Refers a ↔ a = b := by
  constructor
  · intro h
    rcases refers_cases h with h | ⟨_, hu, _⟩
    · exact (artifact.inj h).symm
    · cases hu
  · rintro rfl
    exact .self

@[simp] lemma refers_list {a : ρ} {vs : List (Value ρ)} :
    (Value.list vs).Refers a ↔ ∃ u ∈ vs, u.Refers a := by
  constructor
  · intro h
    exact (refers_cases h).resolve_left nofun
  · rintro ⟨u, hu, h⟩
    exact .child hu h

@[simp] lemma refers_dict {a : ρ} {es : List (String × Value ρ)} :
    (Value.dict es).Refers a ↔ ∃ e ∈ es, e.2.Refers a := by
  constructor
  · intro h
    obtain ⟨u, hu, h⟩ := (refers_cases h).resolve_left nofun
    obtain ⟨e, he, rfl⟩ := List.mem_map.1 hu
    exact ⟨e, he, h⟩
  · rintro ⟨e, he, h⟩
    exact .child (mem_children_dict he) h

lemma not_refers_leaf {a : ρ} {v : Value ρ} (h : v.children = []) (hv : v ≠ .artifact a) :
    ¬v.Refers a := by
  intro hr
  rcases refers_cases hr with hr | ⟨_, hu, _⟩
  · exact hv hr
  · exact absurd (h ▸ hu) List.not_mem_nil

section

variable [Referent ρ]

lemma itemsToJson_eq (vs : List (Value ρ)) : itemsToJson vs = vs.map toJson := by
  induction vs with
  | nil => rfl
  | cons v vs ih => rw [itemsToJson, ih, List.map_cons]

lemma entriesToJson_eq (es : List (String × Value ρ)) :
    entriesToJson es = es.map fun e => (e.1, e.2.toJson) := by
  induction es with
  | nil => rfl
  | cons e es ih =>
    obtain ⟨k, v⟩ := e
    rw [entriesToJson, ih, List.map_cons]

lemma toJson_ne_null {v : Value ρ} (hv : v.Expressible) : v.toJson ≠ .null := by
  cases v with
  | numeric x =>
    have hx := hv.finite x .self
    simp [toJson, Json.ofFloat, hx]
  | blob b => simp [toJson, Blob.toJson, Json.record]
  | _ => simp [toJson]

end

end TypedArtifacts.Value
