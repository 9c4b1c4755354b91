import TypedArtifacts.Patch
import TypedArtifacts.Proofs.Definition.FromJson
import TypedArtifacts.Proofs.Definition.Parts

namespace TypedArtifacts

namespace Patch

inductive Position (size : ℕ) (appending : Bool) : String → ℕ → Prop
  | last : 0 < size → appending = false → Position size appending "-" (size - 1)
  | next : 0 < size → appending = true → Position size appending "-" size
  | item {segment : String} : segment.toList.all Char.isDigit = true →
      Text.numeral segment.toList < size →
      Position size appending segment (Text.numeral segment.toList)
  | afterLast {segment : String} : segment.toList.all Char.isDigit = true →
      Text.numeral segment.toList = size → appending = true → Position size appending segment size

def Given (value : Option Json) (d : Definition Artifact) (v : Value Artifact) : Prop :=
  ∃ j, value = some j ∧ d.fromJson j = .ok (some v)

section

variable (arrange : Definition Artifact → List (Value Artifact) → List (Value Artifact))
  (verb : Verb) (value : Option Json)

inductive EditedIn (segment : String) : Definition Artifact → Value Artifact → Value Artifact → Prop
  | insert {d p : Definition Artifact} {vs : List (Value Artifact)} {i : ℕ} {v : Value Artifact} :
      verb = .add → Position vs.length true segment i → d.itemAt? i = some p → Given value p v →
      EditedIn segment d (.list vs) (.list (arrange d (vs.insertIdx i v)))
  | overwrite {d p : Definition Artifact} {vs : List (Value Artifact)} {i : ℕ}
      {v : Value Artifact} : verb = .replace → Position vs.length false segment i →
      d.itemAt? i = some p → Given value p v → EditedIn segment d (.list vs) (.list (vs.set i v))
  | delete {d p : Definition Artifact} {vs : List (Value Artifact)} {i : ℕ} :
      verb = .remove → Position vs.length false segment i → d.itemAt? i = some p →
      EditedIn segment d (.list vs) (.list (arrange d (vs.eraseIdx i)))
  | put {d p : Definition Artifact} {es : List (String × Value Artifact)} {v : Value Artifact} :
      verb = .add ∨ verb = .replace ∧ Dict.contains segment es = true →
      d.valueAt? segment = some p → Given value p v →
      EditedIn segment d (.dict es) (.dict (Dict.insert segment v es))
  | drop {d p : Definition Artifact} {es : List (String × Value Artifact)} :
      verb = .remove → Dict.contains segment es = true → d.valueAt? segment = some p →
      EditedIn segment d (.dict es) (.dict (Dict.erase segment es))

inductive EditedAt : List String → Definition Artifact → Value Artifact → Value Artifact → Prop
  | here {segment : String} {d : Definition Artifact} {v w : Value Artifact} :
      EditedIn arrange verb value segment d v w → EditedAt [segment] d v w
  | item {segment : String} {rest : List String} {d p : Definition Artifact}
      {vs : List (Value Artifact)} {i : ℕ} {v w : Value Artifact} :
      Position vs.length false segment i → d.itemAt? i = some p → vs[i]? = some v →
      EditedAt rest p v w → EditedAt (segment :: rest) d (.list vs) (.list (vs.set i w))
  | entry {segment : String} {rest : List String} {d p : Definition Artifact}
      {es : List (String × Value Artifact)} {v w : Value Artifact} :
      d.valueAt? segment = some p → es.lookup segment = some v → EditedAt rest p v w →
      EditedAt (segment :: rest) d (.dict es) (.dict (Dict.insert segment w es))

/-- An edit of a whole value, or of the part that a path names in it. Only the value as a whole
can be unset, and counts as an empty container then. -/
inductive Edited (d : Definition Artifact) (current : Option (Value Artifact)) :
    List String → Option (Value Artifact) → Prop
  | clear : verb = .remove → Edited d current [] none
  | whole {v : Value Artifact} : verb ≠ .remove → Given value d v → Edited d current [] (some v)
  | within {path : List String} {v w : Value Artifact} : current.or d.emptyContainer? = some v →
      EditedAt arrange verb value path d v w → Edited d current path (some w)

end

def asEdited (_ : Definition Artifact) (vs : List (Value Artifact)) : List (Value Artifact) := vs

variable {size i i' : ℕ} {appending : Bool} {segment : String}

lemma isDigit_dash : ¬ ("-".toList.all Char.isDigit = true) := by decide

lemma Position.unique (h : Position size appending segment i)
    (h' : Position size appending segment i') : i = i' := by
  cases h with
  | last _ ha =>
    cases h' with
    | last => rfl
    | next _ ha' => exact absurd (ha.symm.trans ha') nofun
    | item hd => exact absurd hd isDigit_dash
    | afterLast hd => exact absurd hd isDigit_dash
  | next _ ha =>
    cases h' with
    | last _ ha' => exact absurd (ha.symm.trans ha') nofun
    | next => rfl
    | item hd => exact absurd hd isDigit_dash
    | afterLast hd => exact absurd hd isDigit_dash
  | item hd =>
    cases h' with
    | last => exact absurd hd isDigit_dash
    | next => exact absurd hd isDigit_dash
    | item => rfl
    | afterLast _ hn => exact hn
  | afterLast hd hn =>
    cases h' with
    | last => exact absurd hd isDigit_dash
    | next => exact absurd hd isDigit_dash
    | item => exact hn.symm
    | afterLast => rfl

lemma Position.lt (h : Position size false segment i) : i < size := by
  cases h with
  | last hs => omega
  | next _ ha => cases ha
  | item _ hi => exact hi
  | afterLast _ _ ha => cases ha

lemma Position.le (h : Position size appending segment i) : i ≤ size := by
  cases h with
  | last => exact Nat.sub_le size 1
  | next => exact le_rfl
  | item _ hi => exact hi.le
  | afterLast => exact le_rfl

section

variable {arrange : Definition Artifact → List (Value Artifact) → List (Value Artifact)}
  {verb : Verb} {value : Option Json} {d : Definition Artifact} {v w : Value Artifact}
  {path : List String} {current r : Option (Value Artifact)}

lemma EditedIn.list_cases {vs : List (Value Artifact)}
    (h : EditedIn arrange verb value segment d (.list vs) w) :
    ∃ i p ws, Position vs.length (verb = .add) segment i ∧ d.itemAt? i = some p ∧
      w = .list ws := by
  cases h with
  | insert hv hi hp _ => exact ⟨_, _, _, by simpa [hv] using hi, hp, rfl⟩
  | overwrite hv hi hp _ => exact ⟨_, _, _, by simpa [hv] using hi, hp, rfl⟩
  | delete hv hi hp => exact ⟨_, _, _, by simpa [hv] using hi, hp, rfl⟩

lemma EditedIn.dict_cases {es : List (String × Value Artifact)}
    (h : EditedIn arrange verb value segment d (.dict es) w) :
    ∃ p fs, (Dict.contains segment es = true ∨ verb = .add) ∧ d.valueAt? segment = some p ∧
      w = .dict fs := by
  cases h with
  | put hv hp _ => exact ⟨_, _, hv.elim .inr fun h => .inl h.2, hp, rfl⟩
  | drop _ hk hp => exact ⟨_, _, .inl hk, hp, rfl⟩

lemma Given.unique (h : Given value d v) (h' : Given value d w) : v = w := by
  obtain ⟨j, hj, hv⟩ := h
  obtain ⟨j', hj', hw⟩ := h'
  obtain rfl := Option.some.inj (hj.symm.trans hj')
  exact Option.some.inj (Except.ok.inj (hv.symm.trans hw))

lemma EditedIn.unique {segment : String} {u : Value Artifact}
    (h : EditedIn arrange verb value segment d u v)
    (h' : EditedIn arrange verb value segment d u w) : v = w := by
  cases h with
  | insert hv hi hp hg =>
    cases h' with
    | insert _ hi' hp' hg' =>
      obtain rfl := hi.unique hi'
      obtain rfl := Option.some.inj (hp.symm.trans hp')
      rw [hg.unique hg']
    | overwrite hv' => exact nomatch hv.symm.trans hv'
    | delete hv' => exact nomatch hv.symm.trans hv'
  | overwrite hv hi hp hg =>
    cases h' with
    | insert hv' => exact nomatch hv.symm.trans hv'
    | overwrite _ hi' hp' hg' =>
      obtain rfl := hi.unique hi'
      obtain rfl := Option.some.inj (hp.symm.trans hp')
      rw [hg.unique hg']
    | delete hv' => exact nomatch hv.symm.trans hv'
  | delete hv hi =>
    cases h' with
    | insert hv' => exact nomatch hv.symm.trans hv'
    | overwrite hv' => exact nomatch hv.symm.trans hv'
    | delete _ hi' => rw [hi.unique hi']
  | put hv hp hg =>
    cases h' with
    | put _ hp' hg' =>
      obtain rfl := Option.some.inj (hp.symm.trans hp')
      rw [hg.unique hg']
    | drop hv' => rcases hv with hv | ⟨hv, _⟩ <;> exact nomatch hv.symm.trans hv'
  | drop hv =>
    cases h' with
    | put hv' => rcases hv' with hv' | ⟨hv', _⟩ <;> exact nomatch hv.symm.trans hv'
    | drop => rfl

lemma EditedAt.unique {u : Value Artifact} (h : EditedAt arrange verb value path d u v)
    (h' : EditedAt arrange verb value path d u w) : v = w := by
  induction h generalizing w with
  | here h =>
    cases h' with
    | here h' => exact h.unique h'
    | item _ _ _ hat => cases hat
    | entry _ _ hat => cases hat
  | item hi hp hget hat ih =>
    cases h' with
    | here => cases hat
    | item hi' hp' hget' hat' =>
      obtain rfl := hi.unique hi'
      obtain rfl := Option.some.inj (hp.symm.trans hp')
      obtain rfl := Option.some.inj (hget.symm.trans hget')
      rw [ih hat']
  | entry hp hget hat ih =>
    cases h' with
    | here => cases hat
    | entry hp' hget' hat' =>
      obtain rfl := Option.some.inj (hp.symm.trans hp')
      obtain rfl := Option.some.inj (hget.symm.trans hget')
      rw [ih hat']

theorem Edited.unique {r' : Option (Value Artifact)}
    (h : Edited arrange verb value d current path r)
    (h' : Edited arrange verb value d current path r') : r = r' := by
  cases h with
  | clear hv =>
    cases h' with
    | clear => rfl
    | whole hv' => exact absurd hv hv'
    | within _ hat => cases hat
  | whole hv hg =>
    cases h' with
    | clear hv' => exact absurd hv' hv
    | whole _ hg' => rw [hg.unique hg']
    | within _ hat => cases hat
  | within hc hat =>
    cases h' with
    | clear => cases hat
    | whole => cases hat
    | within hc' hat' =>
      obtain rfl := Option.some.inj (hc.symm.trans hc')
      rw [hat.unique hat']

end

namespace Target

variable {t : Target}

lemma index_eq_ok : t.index segment size appending = .ok i ↔ Position size appending segment i := by
  unfold index
  constructor
  · intro h
    split at h
    · rename_i hs
      subst hs
      split at h
      · cases h
      · rename_i hsize
        obtain rfl := Except.ok.inj h
        cases appending with
        | true => exact .next (Nat.pos_of_ne_zero hsize) rfl
        | false => exact .last (Nat.pos_of_ne_zero hsize) rfl
    · split at h
      · cases h
      · rename_i hdigits
        have hd : segment.toList.all Char.isDigit = true := by simpa using hdigits
        dsimp only at h
        split at h
        · rename_i hi
          obtain rfl := Except.ok.inj h
          rcases hi with hi | ⟨ha, hi⟩
          · exact .item hd hi
          · rw [hi]
            exact .afterLast hd hi ha
        · cases h
  · intro h
    cases h with
    | last hs ha => simp [ha, Nat.ne_of_gt hs]
    | next hs ha => simp [ha, Nat.ne_of_gt hs]
    | item hd hi =>
      have hne : segment ≠ "-" := fun h => isDigit_dash (h ▸ hd)
      simp only [hne, if_false, hd, Bool.not_true, Bool.false_eq_true, hi, true_or, if_true]
    | afterLast hd hn ha =>
      have hne : segment ≠ "-" := fun h => isDigit_dash (h ▸ hd)
      simp only [hne, if_false, hd, Bool.not_true, Bool.false_eq_true, hn, ha, and_self, or_true,
        if_true]

lemma givenValue_eq_ok {j : Json} : t.givenValue = .ok j ↔ t.value = some j := by
  unfold givenValue
  cases t.value with
  | none => simp [fault]
  | some j' => simp

lemma readItem_eq_ok {d : Definition Artifact} {v : Value Artifact} :
    t.readItem d i = .ok v ↔ Given t.value d v := by
  unfold readItem Given Definition.fromJson
  rw [Outcome.bind_eq_ok]
  simp only [givenValue_eq_ok]
  refine exists_congr fun j => and_congr_right fun _ => ?_
  rw [Outcome.bind_eq_ok]
  simp only [Outcome.mapError_eq_ok]
  constructor
  · rintro ⟨r, hr, h⟩
    cases r with
    | none => cases h
    | some w =>
      obtain rfl := Except.ok.inj h
      exact d.fromJsonAs_congr hr
  · intro h
    exact ⟨some v, d.fromJsonAs_congr h, rfl⟩

lemma given_of_read {d : Definition Artifact} {place : String} {j : Json}
    {r : Option (Value Artifact)} (hj : t.value ≠ some .null) (ht : t.value = some j)
    (h : d.fromJsonAs place j = .ok r) : ∃ v, r = some v ∧ Given t.value d v := by
  have hne : j ≠ .null := fun h => hj (h ▸ ht)
  have hread := h
  rw [Definition.fromJsonAs_of_ne_null hne] at hread
  obtain ⟨v, _, rfl⟩ := Outcome.map_eq_ok.1 hread
  exact ⟨v, rfl, j, ht, d.fromJsonAs_congr h⟩

lemma readEntry_eq_ok {d : Definition Artifact} {key : String} {r : Option (Value Artifact)}
    (hj : t.value ≠ some .null) :
    t.readEntry d key = .ok r ↔ ∃ v, r = some v ∧ Given t.value d v := by
  unfold readEntry
  rw [Outcome.bind_eq_ok]
  simp only [givenValue_eq_ok, Outcome.mapError_eq_ok]
  constructor
  · rintro ⟨j, ht, h⟩
    exact given_of_read hj ht h
  · rintro ⟨v, rfl, j, ht, h⟩
    exact ⟨j, ht, d.fromJsonAs_congr h⟩

lemma editItems_eq_ok {d p : Definition Artifact} {vs ws : List (Value Artifact)}
    (hp : d.itemAt? i = some p) (hi : Position vs.length (t.verb = .add) segment i) :
    t.editItems p i vs = .ok ws ↔
      EditedIn asEdited t.verb t.value segment d (.list vs) (.list ws) := by
  have hlast : t.verb ≠ .add → Position vs.length false segment i := by
    intro hv
    simpa [hv] using hi
  unfold editItems
  constructor
  · intro h
    split at h
    · rename_i hv
      obtain ⟨v, hread, h⟩ := Outcome.bind_eq_ok.1 h
      obtain rfl := Except.ok.inj h
      exact .insert hv (by simpa [hv] using hi) hp (readItem_eq_ok.1 hread)
    · rename_i hv
      obtain ⟨v, hread, h⟩ := Outcome.bind_eq_ok.1 h
      obtain rfl := Except.ok.inj h
      exact .overwrite hv (hlast (by simp [hv])) hp (readItem_eq_ok.1 hread)
    · rename_i hv
      obtain rfl := Except.ok.inj h
      exact .delete hv (hlast (by simp [hv])) hp
  · intro h
    cases h with
    | insert hv hi' hp' hg =>
      obtain rfl := hi'.unique (by simpa [hv] using hi)
      obtain rfl := Option.some.inj (hp'.symm.trans hp)
      rw [hv]
      exact Outcome.bind_eq_ok.2 ⟨_, readItem_eq_ok.2 hg, rfl⟩
    | overwrite hv hi' hp' hg =>
      obtain rfl := hi'.unique (hlast (by simp [hv]))
      obtain rfl := Option.some.inj (hp'.symm.trans hp)
      rw [hv]
      exact Outcome.bind_eq_ok.2 ⟨_, readItem_eq_ok.2 hg, rfl⟩
    | delete hv hi' =>
      obtain rfl := hi'.unique (hlast (by simp [hv]))
      rw [hv]
      rfl

lemma editEntry_eq_ok {d p : Definition Artifact} {es fs : List (String × Value Artifact)}
    (hj : t.value ≠ some .null) (hp : d.valueAt? segment = some p)
    (hk : Dict.contains segment es = true ∨ t.verb = .add) :
    (∃ r, t.editEntry p segment = .ok r ∧ putEntry segment es r = fs) ↔
      EditedIn asEdited t.verb t.value segment d (.dict es) (.dict fs) := by
  have hput : t.verb ≠ .remove →
      t.verb = .add ∨ t.verb = .replace ∧ Dict.contains segment es = true := by
    intro hv
    cases hverb : t.verb <;> simp_all
  unfold editEntry
  constructor
  · rintro ⟨r, hr, rfl⟩
    split at hr
    · rename_i hv
      obtain rfl := Except.ok.inj hr
      exact .drop hv (hk.resolve_right (by simp [hv])) hp
    all_goals
      rename_i hv
      obtain ⟨v, rfl, hg⟩ := (readEntry_eq_ok hj).1 hr
      exact .put (hput (by simp [hv])) hp hg
  · intro h
    cases h with
    | @put _ _ v hv hp' hg =>
      obtain rfl := Option.some.inj (hp'.symm.trans hp)
      refine ⟨some v, ?_, rfl⟩
      rcases hv with hv | ⟨hv, _⟩ <;> rw [hv] <;> exact (readEntry_eq_ok hj).2 ⟨_, rfl, hg⟩
    | drop hv =>
      rw [hv]
      exact ⟨none, rfl, rfl⟩

section

variable {d : Definition Artifact} {current : Option (Value Artifact)} {deeper : List String}

lemma editValue_list {vs : List (Value Artifact)} (hd : d.kind.isList = true)
    (hc : current.or d.emptyContainer? = some (.list vs)) :
    t.editValue (segment :: deeper) d current = (do
      let i ← t.index segment vs.length (t.verb = .add && deeper.isEmpty)
      match d.itemAt? i with
      | none => t.fault (.noPosition segment)
      | some item =>
        if deeper.isEmpty then return some (.list (← t.editItems item i vs))
        else return some (.list (putItem i vs (← t.editValue deeper item vs[i]?)))) := by
  rewrite [editValue, hd, hc]
  cases d.kind.isDict <;> rfl

lemma editValue_dict {es : List (String × Value Artifact)} (hd : d.kind.isDict = true)
    (hc : current.or d.emptyContainer? = some (.dict es)) :
    t.editValue (segment :: deeper) d current =
      if !Dict.contains segment es && !(t.verb = .add && deeper.isEmpty) then
        t.fault (.noKey segment)
      else
        match d.valueAt? segment with
        | none => refuse t.name (.keyNotAllowed segment)
        | some part =>
          if deeper.isEmpty then do
            return some (.dict (putEntry segment es (← t.editEntry part segment)))
          else do
            return some (.dict (putEntry segment es
              (← t.editValue deeper part (es.lookup segment)))) := by
  rw [editValue, hd, hc]
  cases d.kind.isList <;> rfl

lemma edited_of_list {vs : List (Value Artifact)} {w : Option (Value Artifact)}
    (hc : current.or d.emptyContainer? = some (.list vs))
    (ih : ∀ p x u, t.editValue deeper p x = .ok u → Edited asEdited t.verb t.value p x deeper u)
    (h : t.editValue (segment :: deeper) d current = .ok w) :
    Edited asEdited t.verb t.value d current (segment :: deeper) w := by
  cases hl : d.kind.isList with
  | false => simp [editValue, hc, hl, fault] at h
  | true =>
    rw [editValue_list hl hc] at h
    obtain ⟨i, hi, h⟩ := Outcome.bind_eq_ok.1 h
    rw [index_eq_ok] at hi
    cases hp : d.itemAt? i with
    | none => simp [hp, fault] at h
    | some p =>
      rw [hp] at h
      cases deeper with
      | nil =>
        obtain ⟨ws, hws, h⟩ := Outcome.bind_eq_ok.1 h
        obtain rfl := Except.ok.inj h
        have hi' : Position vs.length (t.verb = .add) segment i := by simpa using hi
        exact .within hc (.here ((editItems_eq_ok hp hi').1 hws))
      | cons next deeper =>
        obtain ⟨u, hu, h⟩ := Outcome.bind_eq_ok.1 h
        obtain rfl := Except.ok.inj h
        have hi' : Position vs.length false segment i := by simpa using hi
        cases ih _ _ _ hu with
        | @within _ x _ hx hat =>
          have hget : vs[i]? = some x := by
            rw [List.getElem?_eq_getElem hi'.lt] at hx ⊢
            exact hx
          exact .within hc (.item hi' hp hget hat)

lemma edited_of_dict {es : List (String × Value Artifact)} {w : Option (Value Artifact)}
    (hj : t.value ≠ some .null) (hc : current.or d.emptyContainer? = some (.dict es))
    (ih : ∀ p x u, t.editValue deeper p x = .ok u → Edited asEdited t.verb t.value p x deeper u)
    (h : t.editValue (segment :: deeper) d current = .ok w) :
    Edited asEdited t.verb t.value d current (segment :: deeper) w := by
  cases hl : d.kind.isDict with
  | false => simp [editValue, hc, hl, fault] at h
  | true =>
    rw [editValue_dict hl hc] at h
    split at h
    · cases h
    · rename_i hk
      cases hp : d.valueAt? segment with
      | none => simp [hp, refuse] at h
      | some p =>
        rw [hp] at h
        cases deeper with
        | nil =>
          obtain ⟨r, hr, h⟩ := Outcome.bind_eq_ok.1 h
          obtain rfl := Except.ok.inj h
          have hk' : Dict.contains segment es = true ∨ t.verb = .add := by
            simpa [or_iff_not_imp_left] using hk
          exact .within hc (.here ((editEntry_eq_ok hj hp hk').1 ⟨r, hr, rfl⟩))
        | cons next deeper =>
          obtain ⟨u, hu, h⟩ := Outcome.bind_eq_ok.1 h
          obtain rfl := Except.ok.inj h
          have hk' : Dict.contains segment es = true := by simpa using hk
          obtain ⟨x, hget⟩ := Option.isSome_iff_exists.1 hk'
          cases ih _ _ _ hu with
          | @within _ x' _ hx hat =>
            rw [hget] at hx
            obtain rfl := Option.some.inj hx
            exact .within hc (.entry hp hget hat)

lemma edited_of_editValue {path : List String} {w : Option (Value Artifact)}
    (hj : t.value ≠ some .null) (h : t.editValue path d current = .ok w) :
    Edited asEdited t.verb t.value d current path w := by
  induction path generalizing d current w with
  | nil =>
    rw [editValue] at h
    split at h
    · rename_i hv
      obtain rfl := Except.ok.inj h
      exact .clear hv
    · rename_i hv
      obtain ⟨j, ht, h⟩ := Outcome.bind_eq_ok.1 h
      obtain ⟨v, rfl, hg⟩ := given_of_read hj (givenValue_eq_ok.1 ht) (Outcome.mapError_eq_ok.1 h)
      exact .whole hv hg
  | cons segment deeper ih =>
    cases hc : current.or d.emptyContainer? with
    | none => simp [editValue, hc, fault] at h
    | some v =>
      cases v with
      | list vs => exact edited_of_list hc (fun _ _ _ => ih) h
      | dict es => exact edited_of_dict hj hc (fun _ _ _ => ih) h
      | _ => simp [editValue, hc, fault] at h

lemma editValue_of_editedAt {path : List String} {v w : Value Artifact}
    (hj : t.value ≠ some .null) (hc : current.or d.emptyContainer? = some v)
    (h : EditedAt asEdited t.verb t.value path d v w) :
    t.editValue path d current = .ok (some w) := by
  induction h generalizing current with
  | @here segment d v w h =>
    cases v with
    | list vs =>
      obtain ⟨i, p, ws, hi, hp, rfl⟩ := h.list_cases
      rw [editValue_list (Definition.isList_of_itemAt hp) hc]
      refine Outcome.bind_eq_ok.2 ⟨i, index_eq_ok.2 (by simpa using hi), ?_⟩
      rw [hp]
      exact Outcome.bind_eq_ok.2 ⟨ws, (editItems_eq_ok hp hi).2 h, rfl⟩
    | dict es =>
      obtain ⟨p, fs, hk, hp, rfl⟩ := h.dict_cases
      obtain ⟨r, hr, rfl⟩ := (editEntry_eq_ok hj hp hk).2 h
      rw [editValue_dict (Definition.isDict_of_valueAt hp) hc,
        if_neg (by simpa [or_iff_not_imp_left] using hk), hp]
      exact Outcome.bind_eq_ok.2 ⟨r, hr, rfl⟩
    | _ => cases h
  | @item segment rest d p vs i v w hi hp hget hat ih =>
    rw [editValue_list (Definition.isList_of_itemAt hp) hc]
    have hrest : rest.isEmpty = false := by cases hat <;> rfl
    refine Outcome.bind_eq_ok.2 ⟨i, index_eq_ok.2 (by simpa [hrest] using hi), ?_⟩
    simp only [hp, hrest]
    exact Outcome.bind_eq_ok.2 ⟨some w, ih (by simp [hget]), rfl⟩
  | @entry segment rest d p es v w hp hget hat ih =>
    rw [editValue_dict (Definition.isDict_of_valueAt hp) hc]
    have hrest : rest.isEmpty = false := by cases hat <;> rfl
    simp only [Dict.contains, hget, hrest, hp]
    exact Outcome.bind_eq_ok.2 ⟨some w, ih (by simp), rfl⟩

theorem editValue_eq_ok {path : List String} {w : Option (Value Artifact)}
    (hj : t.value ≠ some .null) : t.editValue path d current = .ok w ↔
      Edited asEdited t.verb t.value d current path w := by
  refine ⟨edited_of_editValue hj, fun h => ?_⟩
  cases h with
  | clear hv => rw [editValue, hv]
  | whole hv hg =>
    obtain ⟨j, ht, hread⟩ := hg
    have hread' : ((d.fromJsonAs t.name j).mapError .validation : Except Fault _) = .ok (some _) :=
      Outcome.mapError_eq_ok.2 (d.fromJsonAs_congr hread)
    rw [editValue]
    split
    · exact absurd ‹_› hv
    · exact Outcome.bind_eq_ok.2 ⟨j, givenValue_eq_ok.2 ht, hread'⟩
  | within hc hat => exact editValue_of_editedAt hj hc hat

end

end Target

end Patch

end TypedArtifacts
