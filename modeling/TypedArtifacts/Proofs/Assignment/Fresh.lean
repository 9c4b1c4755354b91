import TypedArtifacts.Proofs.Assignment.BlobWrites

/-! Uploads go to numbered places, so that what they stored can be told from all that was there. -/

namespace TypedArtifacts

def Storage.mark (n : ℕ) : String :=
  "\x7bu" ++ toString n ++ "\x7d"

lemma Storage.append_mark_inj {s t : String} {m n : ℕ} (h : s ++ mark m = t ++ mark n) :
    m = n := by
  have hdigits : ∀ (s : String) (n : ℕ),
      ((s ++ mark n).toList.reverse.drop 1).takeWhile Char.isDigit =
        (Nat.toDigits 10 n).reverse := by
    intro s n
    have hall : ∀ c ∈ (Nat.toDigits 10 n).reverse, c.isDigit = true := by
      intro c hc
      exact Nat.isDigit_of_mem_toDigits (by decide) (by decide) (List.mem_reverse.1 hc)
    have hreverse : (s ++ mark n).toList.reverse =
        '\x7d' :: ((Nat.toDigits 10 n).reverse ++ 'u' :: '\x7b' :: s.toList.reverse) := by
      simp [mark, Nat.repr_eq_ofList_toDigits]
    rw [hreverse, List.drop_one, List.tail_cons, List.takeWhile_append_of_pos hall,
      List.takeWhile_cons_of_neg (by decide), List.append_nil]
  have hsame : Nat.toDigits 10 m = Nat.toDigits 10 n := by
    rw [← List.reverse_inj, ← hdigits s m, ← hdigits t n, h]
  have hread : ∀ n, Nat.ofDigitChars 10 (Nat.toDigits 10 n) 0 = n := fun n =>
    Nat.ofDigitChars_toDigits (by decide) (by decide)
  rw [← hread m, hsame, hread]

namespace Draft

def place (name : String) (x : Draft) (n : ℕ) : String :=
  Storage.placeOf (x.artifact.id ++ "." ++ name ++ "." ++ Storage.mark n)

def Fresh (name : String) (x : Draft) : Prop :=
  ∀ n, x.storage.issued < n →
    x.storage.objects.lookup (x.place name n) = none ∧ x.place name n ∉ x.artifact.heldPlaces

variable {name : String} {u : Upload} {us : List Upload} {b : Blob} {bs : List Blob} {x y : Draft}

lemma place_inj {other : String} {m n : ℕ} (h : x.place name m = x.place other n) : m = n := by
  have hend : ∀ name n, x.place name n =
      Storage.scheme ++ (x.artifact.id ++ "." ++ name ++ ".") ++ Storage.mark n :=
    fun _ _ => String.append_assoc.symm
  rw [hend, hend] at h
  exact Storage.append_mark_inj h

lemma issued_upload (name : String) (u : Upload) (x : Draft) :
    (x.upload name u).1.storage.issued = x.storage.issued + 1 :=
  Storage.issued_upload _ _ _ _

lemma locations_upload (h : x.upload name u = (y, .ok b)) :
    b.locations = [⟨x.place name (x.storage.issued + 1), .active⟩] := by
  obtain ⟨rfl, hb⟩ := Prod.mk.inj h
  obtain ⟨r, hr, rfl⟩ := Outcome.map_eq_ok.1 (Outcome.mapError_eq_ok.1 hb)
  have hplace : r.place = x.place name (x.storage.issued + 1) := Storage.place_upload hr
  rw [hplace]

lemma freshObjects_eq (name : String) (us : List Upload) (x : Draft) :
    freshObjects name us x =
      (us.zipIdx (x.storage.issued + 1)).map fun u => (x.place name u.2, u.1.data) := by
  induction us generalizing x with
  | nil => rfl
  | cons u us ih =>
    have hplace : (x.upload name u).1.place name = x.place name := rfl
    rw [freshObjects, ih, issued_upload, hplace]
    rfl

lemma exists_number {place : String} (h : place ∈ Dict.keys (freshObjects name us x)) :
    ∃ n, x.storage.issued < n ∧ n ≤ x.storage.issued + us.length ∧ place = x.place name n := by
  rw [freshObjects_eq, Dict.keys, List.map_map] at h
  obtain ⟨⟨u, n⟩, hn, rfl⟩ := List.mem_map.1 h
  have hrange := List.mem_zipIdx hn
  exact ⟨n, by omega, by omega, rfl⟩

lemma Uploaded.places (h : Uploaded name us bs x y) :
    bs.flatMap (·.places) = Dict.keys (freshObjects name us x) := by
  induction h with
  | nil => rfl
  | @cons u us b bs x y z hu _ ih =>
    have hy : (x.upload name u).1 = y := by rw [hu]
    rw [List.flatMap_cons, ih, Blob.places, locations_upload hu, freshObjects, hy]
    rfl

lemma Uploaded.unique {cs : List Blob} {z : Draft} (h : Uploaded name us bs x y)
    (h' : Uploaded name us cs x z) : bs = cs ∧ y = z := by
  induction h generalizing cs with
  | nil =>
    cases h'
    exact ⟨rfl, rfl⟩
  | cons hu _ ih =>
    cases h' with
    | cons hu' hrest =>
      obtain ⟨rfl, hb⟩ := Prod.mk.inj (hu.symm.trans hu')
      obtain rfl := Except.ok.inj hb
      obtain ⟨rfl, rfl⟩ := ih hrest
      exact ⟨rfl, rfl⟩

lemma Uploaded.issued (h : Uploaded name us bs x y) :
    y.storage.issued = x.storage.issued + us.length := by
  induction h with
  | nil => rfl
  | @cons u us _ _ x y _ hu _ ih =>
    have hone := issued_upload name u x
    rw [hu] at hone
    rw [ih, hone, List.length_cons]
    omega

lemma Uploaded.lookup (h : Uploaded name us bs x y) {place : String}
    (hp : place ∉ bs.flatMap (·.places)) :
    y.storage.objects.lookup place = x.storage.objects.lookup place := by
  rw [h.places] at hp
  rw [h.storage.2.2, Dict.lookup_update_of_notMem hp]

lemma Uploaded.nodup (h : Uploaded name us bs x y) : (bs.flatMap (·.places)).Nodup := by
  have hkeys : Dict.keys (freshObjects name us x) =
      (List.range' (x.storage.issued + 1) us.length).map (x.place name) := by
    rw [freshObjects_eq, Dict.keys, List.map_map, ← List.zipIdx_map_snd, List.map_map]
    rfl
  rw [h.places, hkeys]
  exact (List.nodup_range' 1).map fun m n hmn => place_inj hmn

lemma Uploaded.notMem_of_held (h : Uploaded name us bs x y) (hfresh : x.Fresh name)
    {place : String} (hp : place ∈ x.artifact.heldPlaces) : place ∉ bs.flatMap (·.places) := by
  intro hmem
  rw [h.places] at hmem
  obtain ⟨n, hn, _, rfl⟩ := exists_number hmem
  exact (hfresh n hn).2 hp

end Draft

end TypedArtifacts
