import Mathlib.Tactic

namespace TypedArtifacts.Outcome

variable {ε δ α β γ κ : Type}

lemma bind_eq_ok {x : Except ε α} {f : α → Except ε β} {b : β} :
    (x >>= f) = .ok b ↔ ∃ a, x = .ok a ∧ f a = .ok b := by
  cases x with
  | error e => simp [bind, Except.bind]
  | ok a => simp [bind, Except.bind]

lemma bind_eq_error {x : Except ε α} {f : α → Except ε β} {e : ε} :
    (x >>= f) = .error e ↔ x = .error e ∨ ∃ a, x = .ok a ∧ f a = .error e := by
  cases x with
  | error e' => simp [bind, Except.bind]
  | ok a => simp [bind, Except.bind]

@[simp] lemma ok_bind (a : α) (f : α → Except ε β) : ((.ok a : Except ε α) >>= f) = f a := rfl

@[simp] lemma error_bind (e : ε) (f : α → Except ε β) :
    ((.error e : Except ε α) >>= f) = .error e := rfl

@[simp] lemma mapError_eq_ok {f : ε → δ} {x : Except ε α} {a : α} :
    x.mapError f = .ok a ↔ x = .ok a := by
  cases x <;> simp [Except.mapError]

lemma map_eq_ok {f : α → β} {x : Except ε α} {b : β} :
    x.map f = .ok b ↔ ∃ a, x = .ok a ∧ f a = b := by
  cases x <;> simp [Except.map]

lemma mapError_eq_error {f : ε → δ} {x : Except ε α} {d : δ} (h : x.mapError f = .error d) :
    ∃ e, x = .error e := by
  cases x with
  | error e => exact ⟨e, rfl⟩
  | ok a => cases h

lemma map_eq_error {f : α → β} {x : Except ε α} {e : ε} (h : x.map f = .error e) :
    x = .error e := by
  cases x with
  | error e' => exact congrArg _ (Except.error.inj h)
  | ok a => cases h

@[simp] lemma toOption_bind (x : Except ε α) (f : α → Except ε β) :
    (x >>= f).toOption = x.toOption.bind fun a => (f a).toOption := by
  cases x <;> rfl

@[simp] lemma toOption_map (f : α → β) (x : Except ε α) : (x.map f).toOption = x.toOption.map f := by
  cases x <;> rfl

lemma toOption_eq_some {x : Except ε α} {a : α} : x.toOption = some a ↔ x = .ok a := by
  cases x <;> simp [Except.toOption]

lemma bind_of_eq_some {x : Option α} {a : α} {f : α → Option β} (h : x = some a) :
    x >>= f = f a := by
  rw [h]
  rfl

lemma guard_eq_ok {c : Prop} [Decidable c] {e : ε} {k : PUnit → Except ε α} {x : Except ε α}
    {a : α} : (if c then (throw e : Except ε PUnit) >>= k else x) = .ok a ↔ ¬c ∧ x = .ok a := by
  by_cases h : c
  · simp [h, throw, throwThe, MonadExceptOf.throw]
  · simp [h]

lemma mapM_ok {f : α → Except ε β} {g : α → β} {as : List α} (h : ∀ a ∈ as, f a = .ok (g a)) :
    as.mapM f = .ok (as.map g) := by
  induction as with
  | nil => rfl
  | cons a as ih =>
    rw [List.mapM_cons, h a List.mem_cons_self, ih fun b hb => h b (List.mem_cons_of_mem _ hb)]
    rfl

lemma mapM_map_eq_some {f : β → Option α} {g : α → β} {as : List α}
    (h : ∀ a ∈ as, f (g a) = some a) : (as.map g).mapM f = some as := by
  induction as with
  | nil => rfl
  | cons a as ih =>
    rw [List.map_cons, List.mapM_cons, h a List.mem_cons_self,
      ih fun b hb => h b (List.mem_cons_of_mem _ hb)]
    rfl

lemma mapM_eq_ok {f : α → Except ε β} {as : List α} {bs : List β} :
    as.mapM f = .ok bs ↔ List.Forall₂ (fun a b => f a = .ok b) as bs := by
  induction as generalizing bs with
  | nil =>
    rw [List.mapM_nil, List.forall₂_nil_left_iff]
    exact ⟨fun h => (Except.ok.inj h).symm, fun h => congrArg _ h.symm⟩
  | cons a as ih =>
    rw [List.mapM_cons, List.forall₂_cons_left_iff, bind_eq_ok]
    constructor
    · rintro ⟨b, hb, h⟩
      obtain ⟨rest, hr, h⟩ := bind_eq_ok.1 h
      exact ⟨b, rest, hb, ih.1 hr, (Except.ok.inj h).symm⟩
    · rintro ⟨b, rest, hb, hr, rfl⟩
      exact ⟨b, hb, bind_eq_ok.2 ⟨rest, ih.2 hr, rfl⟩⟩

lemma exists_mapM_ok {f : α → Except ε β} {as : List α} :
    (∃ bs, as.mapM f = .ok bs) ↔ ∀ a ∈ as, ∃ b, f a = .ok b := by
  simp only [mapM_eq_ok]
  induction as with
  | nil => exact ⟨fun _ => nofun, fun _ => ⟨[], .nil⟩⟩
  | cons a as ih =>
    rw [List.forall_mem_cons, ← ih]
    constructor
    · rintro ⟨_, hb⟩
      cases hb with
      | cons hb hbs => exact ⟨⟨_, hb⟩, _, hbs⟩
    · rintro ⟨⟨b, hb⟩, bs, hbs⟩
      exact ⟨b :: bs, .cons hb hbs⟩

lemma forM_eq_ok {f : α → Except ε Unit} {as : List α} :
    as.forM f = .ok () ↔ ∀ a ∈ as, f a = .ok () := by
  induction as with
  | nil => exact iff_of_true rfl (by simp)
  | cons a as ih =>
    have hcons : (a :: as).forM f = f a >>= fun _ => as.forM f := rfl
    rw [hcons, bind_eq_ok, List.forall_mem_cons, ← ih]
    constructor
    · rintro ⟨⟨⟩, ha, hrest⟩
      exact ⟨ha, hrest⟩
    · rintro ⟨ha, hrest⟩
      exact ⟨(), ha, hrest⟩

lemma exists_right {R : α → β → Prop} {as : List α} {bs : List β} {a : α}
    (h : List.Forall₂ R as bs) (ha : a ∈ as) : ∃ b ∈ bs, R a b := by
  induction h with
  | nil => cases ha
  | cons hr _ ih =>
    rcases List.mem_cons.1 ha with rfl | ha
    · exact ⟨_, List.mem_cons_self, hr⟩
    · obtain ⟨b, hb, hr⟩ := ih ha
      exact ⟨b, List.mem_cons_of_mem _ hb, hr⟩

lemma exists_forall₂ {R : α → β → Prop} {as : List α} (h : ∀ a ∈ as, ∃ b, R a b) :
    ∃ bs, List.Forall₂ R as bs := by
  induction as with
  | nil => exact ⟨[], .nil⟩
  | cons a as ih =>
    rw [List.forall_mem_cons] at h
    obtain ⟨b, hb⟩ := h.1
    obtain ⟨bs, hbs⟩ := ih h.2
    exact ⟨b :: bs, .cons hb hbs⟩

lemma exists_left {R : α → β → Prop} {as : List α} {bs : List β} {b : β}
    (h : List.Forall₂ R as bs) (hb : b ∈ bs) : ∃ a ∈ as, R a b :=
  exists_right h.flip hb

lemma mapM_error {f : α → Except ε β} {as : List α} {e : ε} (h : as.mapM f = .error e) :
    ∃ a ∈ as, f a = .error e := by
  induction as with
  | nil => cases h
  | cons a as ih =>
    rw [List.mapM_cons] at h
    cases ha : f a with
    | error fault =>
      rw [ha, error_bind] at h
      obtain rfl := Except.error.inj h
      exact ⟨a, List.mem_cons_self, ha⟩
    | ok b =>
      rw [ha, ok_bind] at h
      cases hr : as.mapM f with
      | ok rest =>
        rw [hr] at h
        cases h
      | error fault =>
        rw [hr, error_bind] at h
        obtain rfl := Except.error.inj h
        obtain ⟨a', hm, ha'⟩ := ih hr
        exact ⟨a', List.mem_cons_of_mem _ hm, ha'⟩

lemma forM_error {f : α → Except ε Unit} {as : List α} {e : ε} (h : as.forM f = .error e) :
    ∃ a ∈ as, f a = .error e := by
  induction as with
  | nil => cases h
  | cons a as ih =>
    have hcons : (a :: as).forM f = f a >>= fun _ => as.forM f := rfl
    rw [hcons] at h
    rcases bind_eq_error.1 h with ha | ⟨_, _, hr⟩
    · exact ⟨a, List.mem_cons_self, ha⟩
    · obtain ⟨a', hm, ha'⟩ := ih hr
      exact ⟨a', List.mem_cons_of_mem _ hm, ha'⟩

inductive Match (R : α → β → Prop) : Except ε α → Except δ β → Prop
  | ok {a : α} {b : β} : R a b → Match R (.ok a) (.ok b)
  | error (e : ε) (f : δ) : Match R (.error e) (.error f)

namespace Match

variable {R : α → β → Prop} {S : γ → κ → Prop} {x : Except ε α} {y : Except δ β}

lemma mono {T : α → β → Prop} (h : Match R x y) (ht : ∀ a b, R a b → T a b) : Match T x y := by
  cases h with
  | ok hr => exact .ok (ht _ _ hr)
  | error e f => exact .error e f

lemma bind {k : α → Except ε γ} {l : β → Except δ κ} (h : Match R x y)
    (hk : ∀ a b, R a b → Match S (k a) (l b)) : Match S (x >>= k) (y >>= l) := by
  cases h with
  | ok hr => exact hk _ _ hr
  | error e f => exact .error e f

lemma both (h : Match R x y) :
    (∃ a b, x = .ok a ∧ y = .ok b ∧ R a b) ∨ ∃ e f, x = .error e ∧ y = .error f := by
  cases h with
  | ok hr => exact Or.inl ⟨_, _, rfl, rfl, hr⟩
  | error e f => exact Or.inr ⟨e, f, rfl, rfl⟩

lemma isOk_eq (h : Match R x y) : x.isOk = y.isOk := by
  cases h <;> rfl

lemma of_iff {x : Except ε Unit} {y : Except δ Unit} (h : x = .ok () ↔ y = .ok ()) :
    Match (fun _ _ => True) x y := by
  cases x with
  | error e =>
    cases y with
    | error f => exact .error e f
    | ok u => cases h.2 rfl
  | ok u =>
    cases y with
    | error f => cases h.1 rfl
    | ok w => exact .ok trivial

end Match

end TypedArtifacts.Outcome
