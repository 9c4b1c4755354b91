import Mathlib.Data.String.Basic
import TypedArtifacts.Proofs.Artifact.Written
import TypedArtifacts.Proofs.ArtifactType.Chain

/-! Which collections have a value at all, when nothing but their size is restricted. -/

namespace TypedArtifacts

variable {ρ : Type}

def Rule.IsSizing : Rule ρ → Prop
  | .shape _ => True
  | .limit (.minSize _) => True
  | .limit (.maxSize _) => True
  | .limit (.minKeys _) => True
  | .limit (.maxKeys _) => True
  | _ => False

namespace Definition

def OnlySized (d : Definition ρ) : Prop :=
  ∀ w ∈ d.validators, w.rule.IsSizing

def Limited (d : Definition ρ) (l : Limit) : Prop :=
  ∃ w ∈ d.validators, w.rule = .limit l

/-- No bound asks for more than the positions and keys that are declared, or for less than those
that are required. -/
def HasRoom (d : Definition ρ) : Prop :=
  match d.kind with
  | .tuple items => ∀ n, d.Limited (.minSize n) → n ≤ items.length
  | .composite keys => (∀ n, d.Limited (.minKeys n) → n ≤ keys.length) ∧
      ∀ n, d.Limited (.maxKeys n) → (keys.filter (·.2.required)).length ≤ n
  | _ => True

def Belongs (kind : Kind (Definition ρ)) (w : Validator ρ) : Prop :=
  match w.rule with
  | .shape s => s = kind.shape
  | .limit l => w = .ofRule l.slot (.limit l) ∨
      ∃ items, kind = .tuple items ∧ l = .maxSize items.length
  | _ => True

lemma belongs_ofKind {kind : Kind (Definition ρ)} :
    ∀ w ∈ (ofKind kind).validators, Belongs kind w := by
  intro w hw
  obtain rfl := List.mem_singleton.1 hw
  rfl

lemma belongs_install {kind : Kind (Definition ρ)} {v : Validator ρ} {vs : List (Validator ρ)}
    (hv : Belongs kind v) (h : ∀ w ∈ vs, Belongs kind w) : ∀ w ∈ v.install vs, Belongs kind w := by
  intro w hw
  rcases Validator.mem_install hw with rfl | hw
  · exact hv
  · exact h w hw

lemma Built.belongs {d : Definition ρ} (h : d.Built) : ∀ w ∈ d.validators, Belongs d.kind w := by
  apply h.validators_induction (P := fun kind vs => ∀ w ∈ vs, Belongs kind w)
  · exact fun _ => belongs_ofKind
  · exact fun items _ => belongs_install (Or.inr ⟨items, rfl, rfl⟩)
  · intro kind v vs hv
    apply belongs_install
    cases hv with
    | limit l => exact Or.inl rfl
    | allowedValues values => trivial
    | custom slot message predicate => trivial

lemma Built.limited {d : Definition ρ} (h : d.Built) {l : Limit} (hl : d.Limited l) :
    .ofRule l.slot (.limit l) ∈ d.validators ∨
      ∃ items, d.kind = .tuple items ∧ l = .maxSize items.length := by
  obtain ⟨w, hw, hr⟩ := hl
  have hb := h.belongs w hw
  rw [Belongs, hr] at hb
  rcases hb with he | htuple
  · exact Or.inl (he ▸ hw)
  · exact Or.inr htuple

lemma Built.in_force {d : Definition ρ} (h : d.Built) {l : Limit} (hl : d.Limited l)
    (hne : ∀ n, l ≠ .maxSize n) : .ofRule l.slot (.limit l) ∈ d.validators := by
  rcases h.limited hl with hl | ⟨_, _, he⟩
  · exact hl
  · exact absurd he (hne _)

lemma Built.limit_unique {d : Definition ρ} (h : d.Built) {l l' : Limit} (hl : d.Limited l)
    (hl' : d.Limited l') (hs : l.slot = l'.slot) (hne : ∀ n, l ≠ .maxSize n)
    (hne' : ∀ n, l' ≠ .maxSize n) : l = l' := by
  have hfirst := limitIn?_slot h.nodup (h.in_force hl hne)
  rw [hs, limitIn?_slot h.nodup (h.in_force hl' hne')] at hfirst
  exact (Option.some.inj hfirst).symm

lemma exists_size (low high : ℕ → Prop) (a : ℕ) (hlow : ∀ n n', low n → low n' → n = n')
    (hhigh : ∀ m, high m → a ≤ m) (hbounds : ∀ n m, low n → high m → n ≤ m) :
    ∃ k, a ≤ k ∧ (k = a ∨ low k) ∧ (∀ n, low n → n ≤ k) ∧ ∀ m, high m → k ≤ m := by
  by_cases h : ∃ n, low n ∧ a ≤ n
  · obtain ⟨n, hn, ha⟩ := h
    exact ⟨n, ha, Or.inr hn, fun n' hn' => (hlow n' n hn' hn).le, fun m hm => hbounds n m hn hm⟩
  · refine ⟨a, le_rfl, Or.inl rfl, fun n hn => ?_, hhigh⟩
    by_contra hlt
    exact h ⟨n, hn, by omega⟩

lemma exists_sublist {α : Type} (p : α → Bool) {l : List α} {k : ℕ}
    (hlow : (l.filter p).length ≤ k) (hhigh : k ≤ l.length) :
    ∃ m : List α, m.Sublist l ∧ m.length = k ∧ ∀ x ∈ l, p x = true → x ∈ m := by
  induction l generalizing k with
  | nil => exact ⟨[], .slnil, (Nat.le_zero.1 hhigh).symm, by simp⟩
  | cons y l ih =>
    by_cases hp : p y = true
    · rw [List.filter_cons_of_pos hp, List.length_cons] at hlow
      obtain ⟨k, rfl⟩ : ∃ j, k = j + 1 := ⟨k - 1, by omega⟩
      obtain ⟨m, hm, hl, hall⟩ := ih (Nat.le_of_succ_le_succ hlow) (Nat.le_of_succ_le_succ hhigh)
      refine ⟨y :: m, hm.cons_cons y, by rw [List.length_cons, hl], fun x hx hpx => ?_⟩
      rcases List.mem_cons.1 hx with rfl | hx
      · exact List.mem_cons_self
      · exact List.mem_cons_of_mem _ (hall x hx hpx)
    · rw [List.filter_cons_of_neg hp] at hlow
      by_cases hk : k ≤ l.length
      · obtain ⟨m, hm, hl, hall⟩ := ih hlow hk
        refine ⟨m, hm.cons y, hl, fun x hx hpx => ?_⟩
        rcases List.mem_cons.1 hx with rfl | hx
        · exact absurd hpx hp
        · exact hall x hx hpx
      · refine ⟨y :: l, .refl _, ?_, fun x hx _ => hx⟩
        rw [List.length_cons] at hhigh ⊢
        omega

def manyKeys (k : ℕ) : List String :=
  (List.range k).map fun i => String.ofList (List.replicate i 'a')

lemma keys_forall₂ {α β : Type} {ds : List (String × α)} {es : List (String × β)}
    (h : List.Forall₂ (fun e f => e.1 = f.1) ds es) : Dict.keys es = Dict.keys ds := by
  induction h with
  | nil => rfl
  | cons hname _ ih => rw [Dict.keys_cons, Dict.keys_cons, ih, hname]

lemma sorted_of_keys {α β : Type} {ds : List (String × α)} {es : List (String × β)}
    (h : Dict.keys es = Dict.keys ds) (hd : Dict.Sorted ds) : Dict.Sorted es := by
  have hkeys : (Dict.keys ds).Pairwise (· < ·) := List.pairwise_map.2 hd
  rw [← h] at hkeys
  exact List.pairwise_map.1 hkeys

lemma length_le_of_keys {α β : Type} {ds : List (String × α)} {es : List (String × β)}
    (hn : (Dict.keys ds).Nodup) (h : Dict.keys ds ⊆ Dict.keys es) : ds.length ≤ es.length := by
  have hle := (hn.subperm h).length_le
  rwa [Dict.keys, Dict.keys, List.length_map, List.length_map] at hle

lemma replicate_lt {i j : ℕ} (h : i < j) :
    String.ofList (List.replicate i 'a') < String.ofList (List.replicate j 'a') := by
  rw [String.lt_iff_toList_lt, String.toList_ofList, String.toList_ofList]
  induction i generalizing j with
  | zero =>
    obtain ⟨j, rfl⟩ : ∃ k, j = k + 1 := ⟨j - 1, by omega⟩
    simp [List.replicate_succ]
  | succ i ih =>
    obtain ⟨j, rfl⟩ : ∃ k, j = k + 1 := ⟨j - 1, by omega⟩
    have hlt := ih (Nat.lt_of_succ_lt_succ h)
    simpa [List.replicate_succ] using hlt

lemma sorted_manyKeys (k : ℕ) (v : Value ρ) :
    Dict.Sorted ((manyKeys k).map fun key => (key, v)) := by
  rw [manyKeys, List.map_map, Dict.Sorted, List.pairwise_map]
  exact List.pairwise_lt_range.imp replicate_lt

variable {d : Definition ρ}

lemma OnlySized.typed (h : d.OnlySized) (hd : d.Built) : d.Typed := by
  obtain ⟨w, hw, _, hr | ⟨predicate, hr⟩⟩ := hd.shaped
  · exact ⟨w, hw, hr⟩
  · have hsizing := h w hw
    rw [hr] at hsizing
    exact absurd hsizing id

variable [Referent ρ] [Predicates ρ]

lemma rules_iff (hd : d.Built) (hs : d.OnlySized) {v : Value ρ} (hv : d.kind.shape.fits v = true) :
    (∀ w ∈ d.validators, w.rule.violatedBy v = false) ↔
      ∀ l, d.Limited l → l.violatedBy v = false := by
  constructor
  · rintro h l ⟨w, hw, hr⟩
    have hrule := h w hw
    rwa [hr] at hrule
  · intro h w hw
    have hsizing := hs w hw
    have hbelongs := hd.belongs w hw
    cases hr : w.rule with
    | shape s =>
      rw [Belongs, hr] at hbelongs
      rw [hbelongs, Rule.violatedBy, hv]
      rfl
    | limit l => exact h l ⟨w, hw, hr⟩
    | _ =>
      rw [hr] at hsizing
      exact absurd hsizing id

lemma exists_items (hd : d.Built) (hc : d.Consistent) (hroom : d.HasRoom) :
    ∃ k, (∀ items, d.kind = .tuple items → k ≤ items.length) ∧
      (∀ n, d.Limited (.minSize n) → n ≤ k) ∧ ∀ m, d.Limited (.maxSize m) → k ≤ m := by
  have hfits : ∀ n items, d.Limited (.minSize n) → d.kind = .tuple items → n ≤ items.length := by
    intro n items hn hkind
    rw [HasRoom, hkind] at hroom
    exact hroom n hn
  have hone : ∀ n n', d.Limited (.minSize n) → d.Limited (.minSize n') → n = n' :=
    fun n n' hn hn' => Limit.minSize.inj (hd.limit_unique hn hn' rfl nofun nofun)
  have hbounds : ∀ n m, d.Limited (.minSize n) → d.Limited (.maxSize m) → n ≤ m := by
    intro n m hn hm
    rcases hd.limited hm with hm | ⟨items, hkind, he⟩
    · have hb := hc.bounds (.minSize n) (.maxSize m) (hd.in_force hn nofun) hm
      simpa [exceeds] using hb
    · obtain rfl := Limit.maxSize.inj he
      exact hfits n items hn hkind
  obtain ⟨k, -, hk, hlow, hhigh⟩ := exists_size _ _ 0 hone (fun m _ => m.zero_le) hbounds
  refine ⟨k, fun items hkind => ?_, hlow, hhigh⟩
  rcases hk with rfl | hk
  · exact items.length.zero_le
  · exact hfits k items hk hkind

lemma exists_entries (hd : d.Built) (hc : d.Consistent) (a : ℕ)
    (hhigh : ∀ m, d.Limited (.maxKeys m) → a ≤ m) :
    ∃ k, a ≤ k ∧ (k = a ∨ d.Limited (.minKeys k)) ∧ (∀ n, d.Limited (.minKeys n) → n ≤ k) ∧
      ∀ m, d.Limited (.maxKeys m) → k ≤ m := by
  have hone : ∀ n n', d.Limited (.minKeys n) → d.Limited (.minKeys n') → n = n' :=
    fun n n' hn hn' => Limit.minKeys.inj (hd.limit_unique hn hn' rfl nofun nofun)
  have hbounds : ∀ n m, d.Limited (.minKeys n) → d.Limited (.maxKeys m) → n ≤ m := by
    intro n m hn hm
    have hb := hc.bounds (.minKeys n) (.maxKeys m) (hd.in_force hn nofun) (hd.in_force hm nofun)
    simpa [exceeds] using hb
  exact exists_size _ _ a hone hhigh hbounds

lemma accepts_items (hd : d.Built) (hs : d.OnlySized) (hk : d.kind.shape = .list)
    {vs : List (Value ρ)} : d.Accepts (.list vs) ↔
      ((∀ n, d.Limited (.minSize n) → n ≤ vs.length) ∧
        ∀ n, d.Limited (.maxSize n) → vs.length ≤ n) ∧ AcceptsParts d.kind (.list vs) := by
  have hlimits : (∀ l, d.Limited l → l.violatedBy (.list vs) = false) ↔
      (∀ n, d.Limited (.minSize n) → n ≤ vs.length) ∧
        ∀ n, d.Limited (.maxSize n) → vs.length ≤ n := by
    constructor
    · intro h
      exact ⟨fun n hn => by simpa [Limit.violatedBy, Value.list?] using h _ hn,
        fun n hn => by simpa [Limit.violatedBy, Value.list?] using h _ hn⟩
    · rintro ⟨hmin, hmax⟩ l hl
      cases l with
      | minSize n => simpa [Limit.violatedBy, Value.list?] using hmin n hl
      | maxSize n => simpa [Limit.violatedBy, Value.list?] using hmax n hl
      | unique =>
        obtain ⟨w, hw, hr⟩ := hl
        have hsizing := hs w hw
        rw [hr] at hsizing
        exact absurd hsizing id
      | _ => rfl
  rw [accepts_iff, rules_iff hd hs (hk ▸ rfl), hlimits]

lemma accepts_entries (hd : d.Built) (hs : d.OnlySized) (hk : d.kind.shape = .dict)
    {es : List (String × Value ρ)} : d.Accepts (.dict es) ↔
      ((∀ n, d.Limited (.minKeys n) → n ≤ es.length) ∧
        ∀ n, d.Limited (.maxKeys n) → es.length ≤ n) ∧ AcceptsParts d.kind (.dict es) := by
  have hlimits : (∀ l, d.Limited l → l.violatedBy (.dict es) = false) ↔
      (∀ n, d.Limited (.minKeys n) → n ≤ es.length) ∧
        ∀ n, d.Limited (.maxKeys n) → es.length ≤ n := by
    constructor
    · intro h
      exact ⟨fun n hn => by simpa [Limit.violatedBy, Value.dict?] using h _ hn,
        fun n hn => by simpa [Limit.violatedBy, Value.dict?] using h _ hn⟩
    · rintro ⟨hmin, hmax⟩ l hl
      cases l with
      | minKeys n => simpa [Limit.violatedBy, Value.dict?] using hmin n hl
      | maxKeys n => simpa [Limit.violatedBy, Value.dict?] using hmax n hl
      | _ => rfl
  rw [accepts_iff, rules_iff hd hs (hk ▸ rfl), hlimits]

def Satisfiable (d : Definition ρ) : Prop :=
  ∃ v : Value ρ, v.Ordered ∧ d.Accepts v

section

variable {t : Traits ρ}

lemma satisfiable_list {item : Definition ρ} (hd : Built ⟨t, .list item⟩)
    (hc : Consistent ⟨t, .list item⟩) (hs : OnlySized ⟨t, .list item⟩) (hitem : item.Satisfiable) :
    Satisfiable ⟨t, .list item⟩ := by
  obtain ⟨v, hv, hvalid⟩ := hitem
  obtain ⟨k, -, hlow, hhigh⟩ := exists_items hd hc trivial
  refine ⟨.list (List.replicate k v), ordered_list fun u hu => ?_, ?_⟩
  · obtain rfl := List.eq_of_mem_replicate hu
    exact hv
  · rw [accepts_items hd hs rfl, List.length_replicate]
    refine ⟨⟨hlow, hhigh⟩, acceptsParts_list.2 fun u hu => ?_⟩
    obtain rfl := List.eq_of_mem_replicate hu
    exact hvalid

lemma satisfiable_dict {value : Definition ρ} (hd : Built ⟨t, .dict value⟩)
    (hc : Consistent ⟨t, .dict value⟩) (hs : OnlySized ⟨t, .dict value⟩)
    (hvalue : value.Satisfiable) : Satisfiable ⟨t, .dict value⟩ := by
  obtain ⟨v, hv, hvalid⟩ := hvalue
  obtain ⟨k, -, -, hlow, hhigh⟩ := exists_entries hd hc 0 fun m _ => m.zero_le
  have heach : ∀ e ∈ (manyKeys k).map fun key => (key, v), e.2 = v := by
    intro e he
    obtain ⟨_, _, rfl⟩ := List.mem_map.1 he
    rfl
  refine ⟨.dict ((manyKeys k).map fun key => (key, v)),
    ordered_dict (sorted_manyKeys k v) fun e he => (heach e he).symm ▸ hv, ?_⟩
  rw [accepts_entries hd hs rfl]
  have hlength : ((manyKeys k).map fun key => (key, v)).length = k := by simp [manyKeys]
  rw [hlength]
  exact ⟨⟨hlow, hhigh⟩, acceptsParts_dict.2 fun e he => (heach e he).symm ▸ hvalid⟩

lemma satisfiable_tuple {items : List (Definition ρ)} (hd : Built ⟨t, .tuple items⟩)
    (hc : Consistent ⟨t, .tuple items⟩) (hs : OnlySized ⟨t, .tuple items⟩)
    (hitems : ∀ p ∈ items, p.Satisfiable) (hroom : HasRoom ⟨t, .tuple items⟩) :
    Satisfiable ⟨t, .tuple items⟩ := by
  obtain ⟨k, hk, hlow, hhigh⟩ := exists_items hd hc hroom
  have hkl := hk items rfl
  have htake : ∀ p ∈ items.take k, p.Satisfiable := fun p hp => hitems p (List.mem_of_mem_take hp)
  obtain ⟨vs, hvs⟩ := Outcome.exists_forall₂ htake
  have hlength : vs.length = k := by
    rw [← hvs.length_eq, List.length_take, Nat.min_eq_left hkl]
  refine ⟨.list vs, ordered_list fun v hv => ?_, ?_⟩
  · obtain ⟨_, _, hv, _⟩ := Outcome.exists_left hvs hv
    exact hv
  · rw [accepts_items hd hs rfl, hlength]
    refine ⟨⟨hlow, hhigh⟩, acceptsParts_tuple.2 ⟨hlength.trans_le hkl, fun e he => ?_⟩⟩
    have hzip : (items.take k ++ items.drop k).zip (vs ++ []) =
        (items.take k).zip vs ++ (items.drop k).zip [] := List.zip_append hvs.length_eq
    rw [List.take_append_drop, List.append_nil, List.zip_nil_right, List.append_nil] at hzip
    rw [hzip] at he
    exact ((List.forall₂_iff_zip.1 hvs).2 he).2

lemma satisfiable_composite {keys : List (String × Definition ρ)} (hd : Built ⟨t, .composite keys⟩)
    (hc : Consistent ⟨t, .composite keys⟩) (hs : OnlySized ⟨t, .composite keys⟩)
    (hkeys : ∀ e ∈ keys, e.2.Satisfiable) (hroom : HasRoom ⟨t, .composite keys⟩) :
    Satisfiable ⟨t, .composite keys⟩ := by
  have hsorted := hd.sorted keys rfl
  obtain ⟨hfew, hmany⟩ := hroom
  obtain ⟨k, hak, hk, hlow, hhigh⟩ := exists_entries hd hc _ hmany
  have hkl : k ≤ keys.length := by
    rcases hk with rfl | hk
    · exact List.length_filter_le _ _
    · exact hfew k hk
  -- The required keys, and as many of the others as the least size asks for.
  obtain ⟨chosen, hsub, hlength, hrequired⟩ := exists_sublist _ hak hkl
  have hchosen : ∀ e ∈ chosen, ∃ f : String × Value ρ,
      e.1 = f.1 ∧ f.2.Ordered ∧ e.2.Accepts f.2 := by
    intro e he
    obtain ⟨v, hv, hvalid⟩ := hkeys e (hsub.subset he)
    exact ⟨(e.1, v), rfl, hv, hvalid⟩
  obtain ⟨es, hes⟩ := Outcome.exists_forall₂ hchosen
  have hnames : Dict.keys es = Dict.keys chosen := keys_forall₂ (hes.imp fun _ _ h => h.1)
  have hes' : Dict.Sorted es := sorted_of_keys hnames (hsorted.sublist hsub)
  have hcount : es.length = k := hes.length_eq.symm.trans hlength
  refine ⟨.dict es, ordered_dict hes' fun f hf => ?_, ?_⟩
  · obtain ⟨_, _, _, hv, _⟩ := Outcome.exists_left hes hf
    exact hv
  · rw [accepts_entries hd hs rfl, hcount]
    refine ⟨⟨hlow, hhigh⟩, acceptsParts_composite.2 ⟨fun f hf => ?_, fun e he => ⟨?_, ?_⟩⟩⟩
    · obtain ⟨e, he, hname, _⟩ := Outcome.exists_left hes hf
      rw [← hname, Dict.lookup_of_mem hsorted.nodup (hsub.subset he)]
      rfl
    · intro hnone
      by_contra hr
      have hin : e.1 ∈ Dict.keys es :=
        hnames ▸ Dict.mem_keys_of_mem (hrequired e he (by simpa using hr))
      exact Dict.lookup_eq_none.1 hnone hin
    · intro v hv
      obtain ⟨e', he', hname, _, hvalid⟩ := Outcome.exists_left hes (Dict.mem_of_lookup hv)
      have hsame : (keys.lookup e.1) = some e'.2 := by
        rw [← hname]
        exact Dict.lookup_of_mem hsorted.nodup (hsub.subset he')
      rw [Dict.lookup_of_mem hsorted.nodup he] at hsame
      rw [Option.some.inj hsame]
      exact hvalid

lemma hasRoom_of_satisfiable {d : Definition ρ} (hd : d.Built) (hs : d.OnlySized)
    (h : d.Satisfiable) : d.HasRoom := by
  obtain ⟨v, hv, hvalid⟩ := h
  have hfits := fits_of_valid (hs.typed hd) hvalid
  obtain ⟨t, kind⟩ := d
  cases kind with
  | tuple items =>
    obtain ⟨vs, rfl⟩ := Shape.eq_list hfits
    obtain ⟨⟨hlow, -⟩, hparts⟩ := (accepts_items hd hs rfl).1 hvalid
    exact fun n hn => (hlow n hn).trans (acceptsParts_tuple.1 hparts).1
  | composite keys =>
    obtain ⟨es, rfl⟩ := Shape.eq_dict hfits
    obtain ⟨⟨hlow, hhigh⟩, hparts⟩ := (accepts_entries hd hs rfl).1 hvalid
    obtain ⟨hdeclared, hkeys⟩ := acceptsParts_composite.1 hparts
    have hes : Dict.Sorted es := hv es .self
    have hsorted := hd.sorted keys rfl
    constructor
    · intro n hn
      have hsub : Dict.keys es ⊆ Dict.keys keys := by
        intro key hkey
        obtain ⟨e, he, rfl⟩ := List.mem_map.1 hkey
        by_contra hnot
        have hsome := hdeclared e he
        rw [Dict.lookup_eq_none.2 hnot] at hsome
        cases hsome
      exact (hlow n hn).trans (length_le_of_keys hes.nodup hsub)
    · intro m hm
      have hsub : Dict.keys (keys.filter (·.2.required)) ⊆ Dict.keys es := by
        intro key hkey
        obtain ⟨e, he, rfl⟩ := List.mem_map.1 hkey
        obtain ⟨he, hr⟩ := List.mem_filter.1 he
        by_contra hnot
        have hoptional := (hkeys e he).1 (Dict.lookup_eq_none.2 hnot)
        simp [hoptional] at hr
      have hnodup : (Dict.keys (keys.filter (·.2.required))).Nodup :=
        Dict.Sorted.nodup (hsorted.filter _)
      exact (length_le_of_keys hnodup hsub).trans (hhigh m hm)
  | _ => trivial

theorem satisfiable_iff {d : Definition ρ} (hd : d.Built) (hc : d.Consistent)
    (hk : d.kind.isList = true ∨ d.kind.isDict = true) (hs : d.OnlySized)
    (hparts : ∀ p ∈ d.parts, p.Satisfiable) : d.Satisfiable ↔ d.HasRoom := by
  refine ⟨hasRoom_of_satisfiable hd hs, fun hroom => ?_⟩
  obtain ⟨t, kind⟩ := d
  cases kind with
  | list item => exact satisfiable_list hd hc hs (hparts item (List.mem_singleton_self _))
  | tuple items => exact satisfiable_tuple hd hc hs hparts hroom
  | dict value => exact satisfiable_dict hd hc hs (hparts value (List.mem_singleton_self _))
  | composite keys =>
    have hkeys : ∀ e ∈ keys, e.2.Satisfiable := fun e he => hparts e.2 (List.mem_map_of_mem he)
    exact satisfiable_composite hd hc hs hkeys hroom
  | _ => simp [Kind.isList, Kind.isDict] at hk

end

end Definition

/-- Of the collections of a declared type whose size alone is restricted, at any depth, those have
a value that leave room for one. -/
theorem ArtifactType.Declared.collection_satisfiable_iff [Predicates Artifact] {t : ArtifactType}
    (h : t.Declared) {e : String × Definition Artifact} (he : e ∈ t.attributes)
    {d : Definition Artifact} (hd : d.Within e.2) (hk : d.kind.isList = true ∨ d.kind.isDict = true)
    (hs : d.OnlySized) (hparts : ∀ p ∈ d.parts, p.Satisfiable) : d.Satisfiable ↔ d.HasRoom := by
  obtain ⟨hbuilt, hconsistent⟩ := h.consistent e he d hd
  exact Definition.satisfiable_iff hbuilt hconsistent hk hs hparts

namespace Definition.Sample

attribute [local instance] Predicates.parityAndSize

def couple : Definition Artifact :=
  (Definition.tuple [.scalar .string, .scalar .string]).apply (.limit (.minSize 3))

def tag : Definition Artifact :=
  ((Definition.composite [("code", (Definition.scalar .string).apply .required),
    ("note", .scalar .string)]).apply (.limit (.minKeys 1))).apply (.limit (.maxKeys 1))

def crate : Descriptor where
  name := "Crate"
  version := "1.0.0"
  attributes := [("couple", couple), ("labels", .list tag)]

def crateType : ArtifactType :=
  crate.declare.toOption.get rfl

lemma crateType_declared : crateType.Declared := by
  refine .declare (by simp [crate]) (fun e he => ?_) (show crate.declare = .ok crateType from rfl)
  simp only [crate, List.mem_cons, List.not_mem_nil, or_false] at he
  rcases he with rfl | rfl
  · refine .facet (.limit (.minSize 3)) trivial (.tuple fun d hd => ?_)
    obtain rfl : d = .scalar .string := by simpa using hd
    exact .scalar _
  · refine .list (.facet (.limit (.maxKeys 1)) trivial (.facet (.limit (.minKeys 1)) trivial
      (.composite fun e he => ?_)))
    simp only [List.mem_cons, List.not_mem_nil, or_false] at he
    rcases he with rfl | rfl
    · exact .facet .required trivial (.scalar _)
    · exact .scalar _

def couples : String × Definition Artifact :=
  ("couple", { couple with name := some "couple" })

def labels : String × Definition Artifact :=
  ("labels", { Definition.list tag with name := some "labels" })

lemma satisfiable_string {d : Definition Artifact} (hk : d.kind = .scalar .string)
    (hv : d.validators = [.ofRule "type" (.shape .string)]) : d.Satisfiable := by
  refine ⟨.string "", ordered_atom rfl nofun, accepts_iff.2 ⟨fun w hw => ?_, fun place => ?_⟩⟩
  · obtain rfl : w = .ofRule "type" (.shape .string) := by simpa [hv] using hw
    rfl
  · rw [hk]
    rfl

lemma onlySized_couple : couple.OnlySized := by
  intro w hw
  have hmem : w ∈ [.ofRule "type" (.shape .list), ⟨"arity", .limit (.maxSize 2), arityMessage 2⟩,
    .ofRule "min_size" (.limit (.minSize 3))] := hw
  simp only [List.mem_cons, List.not_mem_nil, or_false] at hmem
  rcases hmem with rfl | rfl | rfl <;> trivial

lemma onlySized_tag : tag.OnlySized := by
  intro w hw
  have hmem : w ∈ [.ofRule "type" (.shape .dict), .ofRule "min_keys" (.limit (.minKeys 1)),
    .ofRule "max_keys" (.limit (.maxKeys 1))] := hw
  simp only [List.mem_cons, List.not_mem_nil, or_false] at hmem
  rcases hmem with rfl | rfl | rfl <;> trivial

theorem tag_satisfiable_iff : labels ∈ crateType.attributes ∧ tag.Within labels.2 ∧
    (tag.Satisfiable ↔ tag.HasRoom) := by
  have hlabels : labels ∈ crateType.attributes := List.mem_cons_of_mem _ List.mem_cons_self
  have hwithin : tag.Within labels.2 := within_of_mem (List.mem_singleton_self _)
  refine ⟨hlabels, hwithin, crateType_declared.collection_satisfiable_iff hlabels hwithin
    (Or.inr rfl) onlySized_tag fun p hp => ?_⟩
  have hmem : p ∈ [(Definition.scalar .string).apply .required, .scalar .string] := hp
  simp only [List.mem_cons, List.not_mem_nil, or_false] at hmem
  rcases hmem with rfl | rfl <;> exact satisfiable_string rfl rfl

/-- A type is declared with a tuple that no value fits: two items are too few and three too many. -/
theorem pair_unsatisfiable : ¬∀ t : ArtifactType, t.Declared → ∀ e ∈ t.attributes,
    ∀ d : Definition Artifact, d.Within e.2 → d.kind.isList = true ∨ d.kind.isDict = true →
      d.OnlySized → (∀ p ∈ d.parts, p.Satisfiable) → d.Satisfiable := by
  intro h
  have hcouple : couples ∈ crateType.attributes := List.mem_cons_self
  have hsized : couples.2.OnlySized := onlySized_couple
  have hsome := h crateType crateType_declared couples hcouple couples.2 .self (Or.inl rfl) hsized
    fun p hp => by
      obtain rfl : p = .scalar .string := by
        simpa using (show p ∈ [.scalar .string, .scalar .string] from hp)
      exact satisfiable_string rfl rfl
  have hbuilt := (crateType_declared.consistent couples hcouple couples.2 .self).1
  have hroom := hasRoom_of_satisfiable hbuilt hsized hsome
  exact absurd (hroom 3 ⟨_, List.mem_cons_of_mem _ (List.mem_cons_of_mem _ List.mem_cons_self), rfl⟩)
    (by decide)

end Definition.Sample

end TypedArtifacts
