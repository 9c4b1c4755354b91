import TypedArtifacts.Assignment.Blobs
import TypedArtifacts.Proofs.Dict

namespace TypedArtifacts.Storage

def Frees (s : Storage) (places : List String) (place : String) : Prop :=
  s.deletes = true ∧ place ∈ places

instance (s : Storage) (places : List String) (place : String) :
    Decidable (s.Frees places place) :=
  inferInstanceAs (Decidable (_ ∧ _))

lemma deletes_delete (s : Storage) (place : String) : (s.delete place).1.deletes = s.deletes := by
  unfold delete
  repeat' split
  all_goals rfl

lemma download_unserved {s : Storage} {place : String} (h : serves place = false) :
    s.download place = .error (.unsupported place) := by
  simp [download, h]

lemma download_delete (s : Storage) (gone place : String) (data : List UInt8) :
    (s.delete gone).1.download place = .ok data ↔
      ¬ s.Frees [gone] place ∧ s.download place = .ok data := by
  cases hserved : serves place with
  | false => simp [download_unserved hserved]
  | true =>
    have hread : ∀ t : Storage, t.download place = .ok data ↔ t.objects.lookup place = some data := by
      intro t
      simp only [download, hserved]
      cases t.objects.lookup place with
      | none => simp
      | some other => simp
    rw [hread, hread, Frees, List.mem_singleton]
    unfold delete
    by_cases hgone : place = gone
    · subst hgone
      cases hd : s.deletes with
      | false => simp [hserved]
      | true =>
        cases hl : s.objects.lookup place with
        | none => simp [hserved, Dict.contains, hl]
        | some other => simp [hserved, Dict.contains, hl]
    · repeat' split
      all_goals simp [hgone, Dict.lookup_erase]

lemma discard_append (s : Storage) (places others : List String) :
    s.discard (places ++ others) = (s.discard places).discard others :=
  List.foldl_append

theorem download_discard (s : Storage) (places : List String) (place : String)
    (data : List UInt8) : (s.discard places).download place = .ok data ↔
      ¬ s.Frees places place ∧ s.download place = .ok data := by
  induction places generalizing s with
  | nil => simp [discard, Frees]
  | cons gone places ih =>
    have hstep : s.discard (gone :: places) = (s.delete gone).1.discard places := rfl
    rw [hstep, ih, download_delete]
    simp only [Frees, deletes_delete, List.mem_cons, List.not_mem_nil, or_false]
    tauto

theorem downloadFirst_discard (s : Storage) (places : List String) (e e' : StorageError)
    (among : List String) (data : List UInt8) :
    (s.discard places).downloadFirst e among = .ok data ↔
      s.downloadFirst e' (among.filter fun place => ¬ s.Frees places place) = .ok data := by
  induction among generalizing e e' with
  | nil => simp [downloadFirst]
  | cons place rest ih =>
    have hread := s.download_discard places place
    by_cases hf : s.Frees places place
    · have hgone : ∃ e, (s.discard places).download place = .error e := by
        cases hd : (s.discard places).download place with
        | error e => exact ⟨e, rfl⟩
        | ok other => exact absurd hf ((hread other).1 hd).1
      obtain ⟨_, hgone⟩ := hgone
      rw [List.filter_cons_of_neg (by simpa using hf), downloadFirst, hgone]
      exact ih _ e'
    · rw [List.filter_cons_of_pos (by simpa using hf), downloadFirst, downloadFirst]
      cases hd : s.download place with
      | ok other => rw [(hread other).2 ⟨hf, hd⟩]
      | error e =>
        cases hd' : (s.discard places).download place with
        | ok other =>
          have hok := ((hread other).1 hd').2
          rw [hd] at hok
          cases hok
        | error e' => exact ih _ _

lemma issued_discard (s : Storage) (places : List String) :
    (s.discard places).issued = s.issued := by
  induction places generalizing s with
  | nil => rfl
  | cons place places ih =>
    refine (ih (s.delete place).1).trans ?_
    unfold delete
    repeat' split
    all_goals rfl

variable {s : Storage}

lemma lookup_discard_of_none {place : String} (h : s.objects.lookup place = none)
    (gone : List String) : (s.discard gone).objects.lookup place = none := by
  induction gone generalizing s with
  | nil => exact h
  | cons first gone ih =>
    have hstep : (s.delete first).1.objects.lookup place = none := by
      unfold delete
      repeat' split
      · exact h
      · exact h
      · rw [Dict.lookup_erase, h, ite_self]
      · exact h
    exact ih hstep

def Served (s : Storage) : Prop :=
  ∀ place data, s.objects.lookup place = some data → serves place = true

lemma serves_placeOf (key : String) : serves (placeOf key) = true := by
  simp [serves, placeOf]

lemma Served.upload (h : s.Served) (key : String) (data : List UInt8) (size : Option ℕ) :
    (s.upload key data size).1.Served := by
  unfold Storage.upload
  dsimp only
  split
  · exact h
  · intro place bytes hl
    dsimp only at hl
    rw [Dict.lookup_insert] at hl
    split at hl
    · rename_i hp
      exact hp ▸ serves_placeOf key
    · exact h place bytes hl

lemma deletes_upload (s : Storage) (key : String) (data : List UInt8) (size : Option ℕ) :
    (s.upload key data size).1.deletes = s.deletes := by
  unfold Storage.upload
  dsimp only
  split <;> rfl

lemma objects_upload {key : String} {data : List UInt8} {size : Option ℕ} {r : Receipt}
    (h : (s.upload key data size).2 = .ok r) :
    (s.upload key data size).1.objects = Dict.insert (placeOf key) data s.objects := by
  unfold Storage.upload at h ⊢
  dsimp only at h ⊢
  split at h
  · cases h
  · rename_i hf
    rw [if_neg hf]

lemma place_upload {key : String} {data : List UInt8} {size : Option ℕ} {r : Receipt}
    (h : (s.upload key data size).2 = .ok r) : r.place = placeOf key := by
  unfold Storage.upload at h
  dsimp only at h
  split at h
  · cases h
  · obtain rfl := Except.ok.inj h
    rfl

lemma objects_upload_error {key : String} {data : List UInt8} {size : Option ℕ} {e : StorageError}
    (h : (s.upload key data size).2 = .error e) : (s.upload key data size).1.objects = s.objects := by
  unfold Storage.upload at h ⊢
  dsimp only at h ⊢
  split at h
  · rename_i hf
    rw [if_pos hf]
  · cases h

lemma issued_upload (s : Storage) (key : String) (data : List UInt8) (size : Option ℕ) :
    (s.upload key data size).1.issued = s.issued := by
  unfold Storage.upload
  dsimp only
  split <;> rfl

lemma lookup_delete (hd : s.deletes = true) {gone : String}
    (hs : ∀ data, s.objects.lookup gone = some data → serves gone = true) (place : String) :
    (s.delete gone).1.objects.lookup place =
      if place = gone then none else s.objects.lookup place := by
  unfold delete
  have habsent : s.objects.lookup gone = none →
      s.objects.lookup place = if place = gone then none else s.objects.lookup place := by
    intro hl
    split
    · rename_i hp
      rw [hp, hl]
    · rfl
  cases hl : s.objects.lookup gone with
  | none =>
    simp only [hd, Dict.contains, hl]
    split
    · exact habsent hl
    · exact habsent hl
  | some data =>
    have hserved := hs data hl
    simp [hserved, hd, Dict.contains, hl, Dict.lookup_erase]

lemma lookup_discard (hd : s.deletes = true) {gone : List String}
    (hs : ∀ p ∈ gone, ∀ data, s.objects.lookup p = some data → serves p = true)
    (place : String) : (s.discard gone).objects.lookup place =
      if place ∈ gone then none else s.objects.lookup place := by
  induction gone generalizing s with
  | nil => simp [discard]
  | cons first gone ih =>
    have hstep : s.discard (first :: gone) = (s.delete first).1.discard gone := rfl
    have hfirst := lookup_delete hd (hs first List.mem_cons_self)
    have hrest : ∀ p ∈ gone, ∀ data, (s.delete first).1.objects.lookup p = some data →
        serves p = true := by
      intro p hp data hl
      rw [hfirst] at hl
      split at hl
      · cases hl
      · exact hs p (List.mem_cons_of_mem _ hp) data hl
    rw [hstep, ih ((deletes_delete s first).trans hd) hrest, hfirst]
    by_cases hp : place = first <;> simp [hp]

end TypedArtifacts.Storage
