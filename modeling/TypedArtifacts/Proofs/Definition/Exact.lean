import TypedArtifacts.Artifact
import TypedArtifacts.Proofs.Definition.FromJson

namespace TypedArtifacts.Definition

variable {ρ : Type} {d q : Definition ρ} {v : Value ρ}

namespace Reads

lemma fits (h : d.Reads v) : d.Fits v := by
  obtain ⟨t, kind⟩ := d
  cases kind with
  | scalar s => exact ⟨h.scalar, nofun, nofun⟩
  | list item =>
    obtain ⟨vs, rfl, _⟩ := h.list
    exact ⟨rfl, nofun, nofun⟩
  | tuple items =>
    obtain ⟨vs, rfl, hl, _⟩ := h.tuple
    exact fits_tuple hl
  | dict value =>
    obtain ⟨es, rfl, _⟩ := h.dict
    exact ⟨rfl, nofun, nofun⟩
  | composite keys =>
    obtain ⟨es, rfl, he⟩ := h.composite
    refine fits_composite fun e hmem => ?_
    obtain ⟨q, hq, _⟩ := he e hmem
    exact Option.isSome_iff_exists.2 ⟨q, hq⟩
  | relation =>
    obtain ⟨_, _, h⟩ := h.kind
    cases h
  | blob =>
    obtain ⟨_, _, h⟩ := h.kind
    cases h

lemma item {vs : List (Value ρ)} {i : ℕ} (h : d.Reads (.list vs)) (hq : d.itemAt? i = some q)
    (hv : vs[i]? = some v) : q.Reads v := by
  obtain ⟨t, kind⟩ := d
  cases kind with
  | list item =>
    obtain ⟨ws, hw, hall⟩ := h.list
    obtain rfl := Value.list.inj hw
    obtain rfl := Option.some.inj hq
    exact hall v (List.mem_of_getElem? hv)
  | tuple items =>
    obtain ⟨ws, hw, _, hall⟩ := h.tuple
    obtain rfl := Value.list.inj hw
    exact hall (q, v) (List.mem_of_getElem? (List.getElem?_zip_eq_some.2 ⟨hq, hv⟩))
  | _ => cases hq

lemma entry {es : List (String × Value ρ)} {e : String × Value ρ} (h : d.Reads (.dict es))
    (hq : d.valueAt? e.1 = some q) (he : e ∈ es) : q.Reads e.2 := by
  obtain ⟨t, kind⟩ := d
  cases kind with
  | dict value =>
    obtain ⟨ws, hw, hall⟩ := h.dict
    obtain rfl := Value.dict.inj hw
    obtain rfl := Option.some.inj hq
    exact hall e he
  | composite keys =>
    obtain ⟨ws, hw, hall⟩ := h.composite
    obtain rfl := Value.dict.inj hw
    obtain ⟨q', hq', hr⟩ := hall e he
    obtain rfl := Option.some.inj (hq.symm.trans hq')
    exact hr
  | _ => cases hq

lemma fitsThroughout (h : d.Reads v) : d.FitsThroughout v :=
  fun _ _ hg => (hg.descend item entry h).fits

end Reads

structure Exact (d : Definition ρ) (v : Value ρ) : Prop where
  form : d.FitsThroughout v
  fixed : d.normalize v = v

/-- Reading gives exact values only, and gives back every exact value that JSON can express. -/
theorem fromJson_exact [Referent ρ] (d : Definition ρ) (hd : d.Plain) :
    (∀ j v, d.fromJson j = .ok (some v) → d.Exact v) ∧
      ∀ v, d.Exact v → v.Expressible → d.fromJson v.toJson = .ok (some v) := by
  constructor
  · intro j v h
    have hreads : d.Reads v := ⟨d.label, j, h⟩
    exact ⟨hreads.fitsThroughout, Reads.normalize d hreads⟩
  · intro v h hv
    exact fromJsonAs_toJson_of_fits d h.form hd hv d.label

namespace Sample

def pair : Definition Artifact :=
  .tuple [.scalar .datetime, .scalar .numeric]

def weather : Definition Artifact :=
  .composite [("readings", .dict pair), ("station", .scalar .text)]

def sent : Json :=
  .obj [
    ("readings", .obj [("noon", .arr [.str "1970-01-02T12:00:00Z", .int 7])]),
    ("station", .str "hill")]

def noon : Instant :=
  ⟨129600, 0⟩

def reading : Value Artifact :=
  .list [.instant noon, .numeric (Binary64.ofInt 7)]

def report : Value Artifact :=
  .dict [("readings", .dict [("noon", reading)]), ("station", .text "hill")]

lemma plain_weather : weather.Plain := by
  have hscalar : ∀ s, (scalar s : Definition Artifact).Plain := fun s =>
    forall_within ⟨rfl, rfl⟩ nofun
  have hpair : pair.Plain := by
    refine forall_within ⟨rfl, rfl⟩ fun q hq => ?_
    have hq : q ∈ [scalar .datetime, scalar .numeric] := hq
    rcases List.mem_pair.1 hq with rfl | rfl
    · exact hscalar .datetime
    · exact hscalar .numeric
  refine forall_within ⟨rfl, rfl⟩ fun q hq => ?_
  have hq : q ∈ [dict pair, scalar .text] := hq
  rcases List.mem_pair.1 hq with rfl | rfl
  · refine forall_within ⟨rfl, rfl⟩ fun q hq => ?_
    obtain rfl := List.mem_singleton.1 hq
    exact hpair
  · exact hscalar .text

lemma inMicros_noon : noon.InMicros :=
  ⟨Or.inl (by decide), rfl, by decide, by decide⟩

lemma expressible_report : report.Expressible := by
  have hreading : reading.Expressible := by
    refine Value.expressible_of_children nofun nofun fun u hu => ?_
    rcases List.mem_pair.1 hu with rfl | rfl
    · refine Value.expressible_of_children nofun (fun t ht => ?_) nofun
      obtain rfl := Value.instant.inj ht
      exact inMicros_noon
    · refine Value.expressible_of_children (fun x hx => ?_) nofun nofun
      obtain rfl := Value.numeric.inj hx
      rfl
  refine Value.expressible_of_children nofun nofun fun u hu => ?_
  rcases List.mem_pair.1 hu with rfl | rfl
  · refine Value.expressible_of_children nofun nofun fun u hu => ?_
    obtain rfl := List.mem_singleton.1 hu
    exact hreading
  · exact Value.expressible_of_children nofun nofun nofun

theorem fromJson_exact_report : weather.fromJson sent = .ok (some report) ∧
    weather.Exact report ∧ weather.fromJson report.toJson = .ok (some report) := by
  have hread : weather.fromJson sent = .ok (some report) := rfl
  obtain ⟨hsound, hinverse⟩ := fromJson_exact weather plain_weather
  have hexact := hsound sent report hread
  exact ⟨hread, hexact, hinverse report hexact expressible_report⟩

end Sample

end TypedArtifacts.Definition
