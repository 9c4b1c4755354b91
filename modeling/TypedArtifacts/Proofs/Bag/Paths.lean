import TypedArtifacts.Proofs.Bag.Cuts

/-! The paths of keys that leaves are written from, and those that their texts are read as. -/

namespace TypedArtifacts.Definition

variable {ρ : Type}

def cut (d : Definition ρ) : String → String × Option String :=
  match d.kind with
  | .dict value => fun text => if value.kind.isDict then cutAtDot text else (text, none)
  | .composite keys => declaredCut keys
  | _ => fun text => (text, none)

def route (d : Definition ρ) (text : String) : List String :=
  match d.cut text with
  | (key, none) => [key]
  | (key, some rest) =>
    match _h : d.valueAt? key with
    | some p => key :: route p rest
    | none => [key, rest]
  termination_by sizeOf d
  decreasing_by exact sizeOf_part (mem_parts_of_valueAt? _h)

def KeepsKey (d : Definition ρ) (key : String) : Prop :=
  match d.kind with
  | .dict value => value.kind.isDict = true → '.' ∉ key.toList
  | .composite keys => ∀ e ∈ keys, ¬ (e.1.toList ++ ['.']) <+: key.toList
  | _ => True

def Clean : Definition ρ → List String → Prop
  | _, [] => True
  | d, key :: path => d.KeepsKey key ∧ ∀ p, d.valueAt? key = some p → p.Clean path

def keyAt (key : String) (path : List String) : String :=
  path.foldl keyUnder key

lemma keyAt_keyUnder (key name : String) (path : List String) :
    keyAt (keyUnder key name) path = keyUnder key (keyAt name path) := by
  induction path generalizing name with
  | nil => rfl
  | cons k path ih =>
    rw [keyAt, List.foldl_cons, ← keyUnder_keyUnder]
    exact ih (keyUnder name k)

lemma keyAt_cons (key name : String) (path : List String) :
    keyAt key (name :: path) = keyUnder key (keyAt name path) :=
  keyAt_keyUnder key name path

lemma keyUnder_inj {key name name' : String} (h : keyUnder key name = keyUnder key name') :
    name = name' := by
  have hl := congrArg String.toList h
  rw [toList_keyUnder, toList_keyUnder] at hl
  have hl' := List.append_cancel_left hl
  exact String.ext (List.cons.inj hl').2

lemma cutAtDot_cases (text : String) : ('.' ∉ text.toList ∧ cutAtDot text = (text, none)) ∨
    ∃ key rest, '.' ∉ key.toList ∧ text = keyUnder key rest ∧
      cutAtDot text = (key, some rest) := by
  by_cases h : '.' ∈ text.toList
  · obtain ⟨before, after, htext, hbefore⟩ := List.eq_append_cons_of_mem h
    have hkey : '.' ∉ (String.ofList before).toList := by rwa [String.toList_ofList]
    have heq : text = keyUnder (String.ofList before) (String.ofList after) := by
      apply String.ext
      rw [toList_keyUnder, String.toList_ofList, String.toList_ofList, htext]
    refine Or.inr ⟨_, _, hkey, heq, ?_⟩
    rw [heq]
    exact cutAtDot_keyUnder hkey _
  · exact Or.inl ⟨h, cutAtDot_dotless h⟩

lemma declaredCut_cases (keys : List (String × Definition ρ)) (text : String) :
    ((∀ e ∈ keys, ¬ (e.1.toList ++ ['.']) <+: text.toList) ∧ declaredCut keys text = (text, none)) ∨
    ∃ l e r rest, keys = l ++ e :: r ∧ (∀ x ∈ l, ¬ (x.1.toList ++ ['.']) <+: text.toList) ∧
      text = keyUnder e.1 rest ∧ declaredCut keys text = (e.1, some rest) := by
  cases hf : keys.find? fun e => (e.1.toList ++ ['.']).isPrefixOf text.toList with
  | none =>
    refine Or.inl ⟨fun e he => ?_, by simp only [declaredCut, hf]⟩
    simpa only [List.isPrefixOf_iff_prefix] using List.find?_eq_none.1 hf e he
  | some e =>
    obtain ⟨hp, l, r, hl, hbefore⟩ := List.find?_eq_some_iff_append.1 hf
    rw [List.isPrefixOf_iff_prefix] at hp
    obtain ⟨cs, hcs⟩ := hp
    have heq : text = keyUnder e.1 (String.ofList cs) := by
      apply String.ext
      rw [toList_keyUnder, String.toList_ofList, ← hcs, List.append_assoc, List.singleton_append]
    refine Or.inr ⟨l, e, r, String.ofList cs, hl, fun x hx => ?_, heq, ?_⟩
    · intro hpre
      have hx' := hbefore x hx
      rw [List.isPrefixOf_iff_prefix.2 hpre] at hx'
      cases hx'
    · have hdrop : text.toList.drop (e.1.length + 1) = cs := by
        rw [← hcs, ← String.length_toList, List.append_assoc, List.drop_append]
        simp
      simp only [declaredCut, hf, hdrop]

lemma cut_cases (d : Definition ρ) (text : String) :
    d.cut text = (text, none) ∨
      ∃ key rest, text = keyUnder key rest ∧ d.cut text = (key, some rest) := by
  obtain ⟨t, kind⟩ := d
  cases kind with
  | dict value =>
    change (if value.kind.isDict then cutAtDot text else (text, none)) = _ ∨ ∃ key rest, _ ∧
      (if value.kind.isDict then cutAtDot text else (text, none)) = _
    split
    · rcases cutAtDot_cases text with ⟨_, h⟩ | ⟨key, rest, _, heq, h⟩
      · exact Or.inl h
      · exact Or.inr ⟨key, rest, heq, h⟩
    · exact Or.inl rfl
  | composite keys =>
    rcases declaredCut_cases keys text with ⟨_, h⟩ | ⟨_, e, _, rest, _, _, heq, h⟩
    · exact Or.inl h
    · exact Or.inr ⟨e.1, rest, heq, h⟩
  | _ => exact Or.inl rfl

lemma cut_self_iff (d : Definition ρ) (key : String) :
    d.cut key = (key, none) ↔ d.KeepsKey key := by
  obtain ⟨t, kind⟩ := d
  cases kind with
  | dict value =>
    change (if value.kind.isDict then cutAtDot key else (key, none)) = _ ↔
      (value.kind.isDict = true → '.' ∉ key.toList)
    by_cases hd : value.kind.isDict = true
    · rw [if_pos hd]
      rcases cutAtDot_cases key with ⟨h, hc⟩ | ⟨k, rest, hk, heq, hc⟩
      · simp [hc, h]
      · have hdot : '.' ∈ key.toList := by simp [heq, toList_keyUnder]
        simp [hc, hd, hdot]
    · simp [hd]
  | composite keys =>
    change declaredCut keys key = _ ↔ ∀ e ∈ keys, ¬ (e.1.toList ++ ['.']) <+: key.toList
    rcases declaredCut_cases keys key with ⟨h, hc⟩ | ⟨l, e, r, rest, rfl, _, heq, hc⟩
    · simp only [hc, true_iff]
      exact h
    · have hp : (e.1.toList ++ ['.']) <+: key.toList := by
        rw [heq, toList_keyUnder]
        exact ⟨rest.toList, by simp⟩
      have hm : e ∈ l ++ e :: r := by simp
      simp only [hc, Prod.mk.injEq, reduceCtorEq, and_false, false_iff, not_forall]
      exact ⟨e, hm, fun hn => hn hp⟩
  | _ => exact ⟨fun _ => trivial, fun _ => rfl⟩

lemma lt_append (a b : List Char) (c : Char) : a < a ++ c :: b := by
  induction a with
  | nil => exact List.nil_lt_cons c b
  | cons x a ih => exact List.cons_lt_cons_iff.2 (Or.inr ⟨rfl, ih⟩)

lemma lt_of_prefix {a b : String} (h : (a.toList ++ ['.']) <+: b.toList) : a < b := by
  obtain ⟨rest, hr⟩ := h
  change a.toList < b.toList
  rw [← hr, List.append_assoc]
  exact lt_append _ _ _

lemma declaredCut_keyUnder_iff {keys : List (String × Definition ρ)} (hs : Dict.Sorted keys)
    {e : String × Definition ρ} (he : e ∈ keys) (rest : String) :
    declaredCut keys (keyUnder e.1 rest) = (e.1, some rest) ↔
      ∀ x ∈ keys, ¬ (x.1.toList ++ ['.']) <+: e.1.toList := by
  have hbegins : (e.1.toList ++ ['.']) <+: (keyUnder e.1 rest).toList := by
    rw [toList_keyUnder]
    exact ⟨rest.toList, by simp⟩
  rcases declaredCut_cases keys (keyUnder e.1 rest) with ⟨h, _⟩ | ⟨l, f, r, rest', rfl, hl, heq, hc⟩
  · exact absurd hbegins (h e he)
  have hlater : ∀ x ∈ r, f.1 < x.1 := by
    have hr := (List.pairwise_append.1 hs).2.1
    exact (List.pairwise_cons.1 hr).1
  rw [hc]
  constructor
  · intro h x hx hpre
    obtain ⟨hfe, _⟩ := Prod.mk.inj h
    have hlt := lt_of_prefix hpre
    have htext : (x.1.toList ++ ['.']) <+: (keyUnder e.1 rest).toList := by
      rw [toList_keyUnder]
      exact hpre.trans (List.prefix_append _ _)
    rcases List.mem_append.1 hx with hx | hx
    · exact hl x hx htext
    · rcases List.mem_cons.1 hx with rfl | hx
      · rw [hfe] at hlt
        exact String.lt_irrefl _ hlt
      · have hgt := hlater x hx
        rw [hfe] at hgt
        exact String.lt_irrefl _ (String.lt_trans hlt hgt)
  · intro h
    have hf : (f.1.toList ++ ['.']) <+: (keyUnder e.1 rest).toList := by
      rw [heq, toList_keyUnder]
      exact ⟨rest'.toList, by simp⟩
    have hfe : f.1 = e.1 := by
      rcases prefix_keyUnder_cases hf with hfe | hpre | hpre
      · exact hfe
      · exact absurd hpre (h f (by simp))
      · have hlt := lt_of_prefix hpre
        rcases List.mem_append.1 he with he | he
        · exact absurd hbegins (hl e he)
        · rcases List.mem_cons.1 he with rfl | he
          · rfl
          · exact absurd (String.lt_trans hlt (hlater e he)) (String.lt_irrefl _)
    rw [hfe] at heq ⊢
    rw [keyUnder_inj heq]

lemma cut_keyUnder_iff {d p : Definition ρ} {key : String}
    (hs : ∀ keys, d.kind = .composite keys → Dict.Sorted keys)
    (hp : d.valueAt? key = some p) (hdict : p.kind.isDict = true) (rest : String) :
    d.cut (keyUnder key rest) = (key, some rest) ↔ d.KeepsKey key := by
  obtain ⟨t, kind⟩ := d
  cases kind with
  | dict value =>
    obtain rfl := Option.some.inj hp
    change (if value.kind.isDict then cutAtDot (keyUnder key rest) else (keyUnder key rest, none)) =
      _ ↔ (value.kind.isDict = true → '.' ∉ key.toList)
    rw [if_pos hdict]
    constructor
    · intro h _
      rcases cutAtDot_cases (keyUnder key rest) with ⟨_, hc⟩ | ⟨k, _, hk, _, hc⟩
      · cases (Prod.mk.inj (hc.symm.trans h)).2
      · obtain ⟨rfl, _⟩ := Prod.mk.inj (hc.symm.trans h)
        exact hk
    · exact fun h => cutAtDot_keyUnder (h hdict) rest
  | composite keys =>
    exact declaredCut_keyUnder_iff (hs keys rfl) (Dict.mem_of_lookup hp) rest
  | _ => cases hp

lemma route_whole {d : Definition ρ} {text : String} (h : d.cut text = (text, none)) :
    d.route text = [text] := by
  rw [route, h]

lemma route_apart {d p : Definition ρ} {text key rest : String}
    (h : d.cut text = (key, some rest)) (hp : d.valueAt? key = some p) :
    d.route text = key :: p.route rest := by
  rw [route, h]
  dsimp only
  split
  · rename_i q hq
    obtain rfl : p = q := Option.some.inj (hp.symm.trans hq)
    rfl
  · rename_i hn
    cases hp.symm.trans hn

lemma route_apart_cons {d : Definition ρ} {text key rest : String}
    (h : d.cut text = (key, some rest)) : ∃ k path, d.route text = key :: k :: path := by
  have hne : ∀ (p : Definition ρ) (text : String), ∃ k path, p.route text = k :: path := by
    intro p text
    rw [route]
    split
    · exact ⟨_, _, rfl⟩
    · split
      · exact ⟨_, _, rfl⟩
      · exact ⟨_, _, rfl⟩
  cases hp : d.valueAt? key with
  | some p =>
    obtain ⟨k, path, hr⟩ := hne p rest
    exact ⟨k, path, by rw [route_apart h hp, hr]⟩
  | none =>
    refine ⟨rest, [], ?_⟩
    rw [route, h]
    dsimp only
    split
    · rename_i q hq
      cases hp.symm.trans hq
    · rfl

end TypedArtifacts.Definition
