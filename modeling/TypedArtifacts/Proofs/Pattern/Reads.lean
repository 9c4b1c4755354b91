import TypedArtifacts.Proofs.Pattern.Search

/-! What regular expressions match that do not look at what stands around, one rule for each way to
build them, and those that take in a text as a whole. -/

namespace TypedArtifacts.Pattern.Tree

def Reads (t : Tree) (P : List Char → Prop) : Prop :=
  ∀ before cs after, Matches t before cs after ↔ P cs

def Starts (t : Tree) (P : List Char → Prop) : Prop :=
  ∀ before cs after, Matches t before cs after ↔ before = none ∧ P cs

variable {t u : Tree} {P Q : List Char → Prop} {s : CharSet} {cs : List Char}

lemma Reads.congr (h : t.Reads P) (hpq : ∀ cs, P cs ↔ Q cs) : t.Reads Q :=
  fun before cs after => (h before cs after).trans (hpq cs)

lemma reads_set (s : CharSet) : (set s).Reads fun cs => ∃ c, cs = [c] ∧ s.has c = true :=
  fun _ _ _ => matches_set

lemma reads_single (c : Char) : (set (.single c)).Reads (· = [c]) :=
  (reads_set _).congr fun cs => by simp [CharSet.has_single]

lemma Reads.seq (ht : t.Reads P) (hu : u.Reads Q) :
    (seq t u).Reads fun cs => ∃ xs ys, cs = xs ++ ys ∧ P xs ∧ Q ys :=
  fun _ _ _ => by simp only [matches_seq, ht _ _ _, hu _ _ _]

lemma Reads.alt (ht : t.Reads P) (hu : u.Reads Q) : (alt t u).Reads fun cs => P cs ∨ Q cs :=
  fun _ _ _ => by rw [matches_alt, ht _ _ _, hu _ _ _]

lemma Reads.optional (ht : t.Reads P) : t.optional.Reads fun cs => P cs ∨ cs = [] :=
  ht.alt fun _ _ _ => matches_empty

lemma Reads.star (ht : t.Reads P) :
    (Tree.star t).Reads fun cs => ∃ ws : List (List Char), (∀ w ∈ ws, P w) ∧ cs = ws.flatten := by
  intro before cs after
  constructor
  · intro h
    generalize hs : Tree.star t = u at h
    induction h with
    | done => exact ⟨[], nofun, rfl⟩
    | more hfirst _ _ ih =>
      obtain rfl := Tree.star.inj hs
      obtain ⟨ws, hws, rfl⟩ := ih rfl
      exact ⟨_ :: ws, List.forall_mem_cons.2 ⟨(ht _ _ _).1 hfirst, hws⟩, rfl⟩
    | _ => cases hs
  · rintro ⟨ws, hws, rfl⟩
    induction ws generalizing before with
    | nil => exact .done
    | cons w ws ih =>
      obtain ⟨hw, hws⟩ := List.forall_mem_cons.1 hws
      exact .more ((ht _ _ _).2 hw) (ih _ hws)

lemma reads_many (s : CharSet) : (star (set s)).Reads fun cs => ∀ c ∈ cs, s.has c = true := by
  refine (Reads.star (reads_set s)).congr fun cs => ?_
  constructor
  · rintro ⟨ws, hws, rfl⟩ c hc
    obtain ⟨w, hw, hcw⟩ := List.mem_flatten.1 hc
    obtain ⟨d, rfl, hd⟩ := hws w hw
    rwa [List.mem_singleton.1 hcw]
  · intro h
    refine ⟨cs.map ([·]), fun w hw => ?_, (List.flatMap_singleton' cs).symm⟩
    obtain ⟨c, hc, rfl⟩ := List.mem_map.1 hw
    exact ⟨c, rfl, h c hc⟩

lemma reads_some (s : CharSet) : (seq (set s) (star (set s))).Reads fun cs =>
    cs ≠ [] ∧ ∀ c ∈ cs, s.has c = true := by
  refine (Reads.seq (reads_set s) (reads_many s)).congr fun cs => ?_
  constructor
  · rintro ⟨_, ys, rfl, ⟨c, rfl, hc⟩, hys⟩
    exact ⟨nofun, List.forall_mem_cons.2 ⟨hc, hys⟩⟩
  · rintro ⟨hne, h⟩
    obtain ⟨c, ys, rfl⟩ := List.exists_cons_of_ne_nil hne
    obtain ⟨hc, hys⟩ := List.forall_mem_cons.1 h
    exact ⟨[c], ys, rfl, ⟨c, rfl, hc⟩, hys⟩

lemma Reads.starts (h : t.Reads P) : (Tree.seq (assertion .textStart) t).Starts P := by
  intro before cs after
  simp [matches_seq, matches_assertion, Assertion.holds, h _ _ _]

lemma Starts.congr (h : t.Starts P) (hpq : ∀ cs, P cs ↔ Q cs) : t.Starts Q :=
  fun before cs after => (h before cs after).trans (and_congr_right fun _ => hpq cs)

lemma Starts.seq (ht : t.Starts P) (hu : u.Reads Q) :
    (seq t u).Starts fun cs => ∃ xs ys, cs = xs ++ ys ∧ P xs ∧ Q ys := by
  intro before cs after
  simp only [matches_seq, ht _ _ _, hu _ _ _]
  constructor
  · rintro ⟨xs, ys, hcs, ⟨hbefore, hx⟩, hy⟩
    exact ⟨hbefore, xs, ys, hcs, hx, hy⟩
  · rintro ⟨hbefore, xs, ys, hcs, hx, hy⟩
    exact ⟨xs, ys, hcs, ⟨hbefore, hx⟩, hy⟩

lemma Starts.occursIn_iff (h : t.Starts P) :
    (Tree.seq t (assertion .textEnd)).occursIn cs = true ↔ P cs := by
  rw [Tree.occursIn_iff]
  constructor
  · rintro ⟨ws, _, rfl, xs, ys, rfl, hmatch⟩
    obtain ⟨xs, _, rfl, hfirst, hlast⟩ := matches_seq.1 hmatch
    obtain ⟨rfl, hend⟩ := matches_assertion.1 hlast
    obtain ⟨hbehind, hx⟩ := (h _ _ _).1 hfirst
    have hws := behind_none.1 hbehind
    have hys : ys = [] := by simpa [Assertion.holds] using hend
    simpa [hws, hys] using hx
  · intro hcs
    have hend : Matches (assertion .textEnd) (behind none cs) [] [] := .assertion rfl
    have hwhole := Matches.seq ((h none cs ([] ++ [])).2 ⟨rfl, hcs⟩) hend
    exact ⟨[], cs, rfl, cs ++ [], [], by simp, hwhole⟩

end TypedArtifacts.Pattern.Tree
