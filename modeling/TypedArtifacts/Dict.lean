/-!
Dictionaries with text keys: association lists whose keys ascend by code point.
-/

namespace TypedArtifacts.Dict

variable {α β : Type}

def Sorted (d : List (String × α)) : Prop :=
  d.Pairwise fun x y => x.1 < y.1

instance (d : List (String × α)) : Decidable (Sorted d) :=
  inferInstanceAs (Decidable (d.Pairwise fun x y => x.1 < y.1))

def insert (key : String) (value : α) : List (String × α) → List (String × α)
  | [] => [(key, value)]
  | (k, v) :: rest =>
    if key = k then (key, value) :: rest
    else if key < k then (key, value) :: (k, v) :: rest
    else (k, v) :: insert key value rest

def erase (key : String) (d : List (String × α)) : List (String × α) :=
  d.filter fun entry => entry.1 != key

def contains (key : String) (d : List (String × α)) : Bool :=
  (d.lookup key).isSome

def keys (d : List (String × α)) : List String :=
  d.map (·.1)

def values (d : List (String × α)) : List α :=
  d.map (·.2)

def adjust (key : String) (f : α → α) (d : List (String × α)) : List (String × α) :=
  d.map fun entry => if entry.1 = key then (entry.1, f entry.2) else entry

def update (d entries : List (String × α)) : List (String × α) :=
  entries.foldl (fun d entry => insert entry.1 entry.2 d) d

def ofList (entries : List (String × α)) : List (String × α) :=
  update [] entries

def mapValues (f : α → β) (d : List (String × α)) : List (String × β) :=
  d.map fun entry => (entry.1, f entry.2)

@[simp] theorem lookup_insert_self (key : String) (value : α) (d : List (String × α)) :
    (insert key value d).lookup key = some value := by
  induction d with
  | nil => simp [insert]
  | cons entry rest ih =>
    rw [insert]
    split
    · simp
    · rename_i h
      have h' : (key == entry.1) = false := by simpa using h
      split
      · simp
      · simp only [List.lookup_cons, h', ih]

theorem lookup_insert_of_ne {key other : String} (h : other ≠ key) (value : α)
    (d : List (String × α)) : (insert key value d).lookup other = d.lookup other := by
  have h' : (other == key) = false := by simpa using h
  induction d with
  | nil => simp [insert, List.lookup_cons, h']
  | cons entry rest ih =>
    obtain ⟨k, v⟩ := entry
    rw [insert]
    split
    · rename_i hk
      subst hk
      simp [List.lookup_cons, h']
    · split
      · simp [List.lookup_cons, h']
      · simp only [List.lookup_cons, ih]

@[simp] theorem lookup_erase_self (key : String) (d : List (String × α)) :
    (erase key d).lookup key = none := by
  induction d with
  | nil => rfl
  | cons entry rest ih =>
    obtain ⟨k, v⟩ := entry
    by_cases h : k = key
    · simpa [erase, h] using ih
    · have h' : (key == k) = false := by simpa using Ne.symm h
      simpa [erase, h, List.lookup_cons, h'] using ih

@[simp] theorem keys_adjust (key : String) (f : α → α) (d : List (String × α)) :
    keys (adjust key f d) = keys d := by
  simp only [keys, adjust, List.map_map]
  refine List.map_congr_left fun entry _ => ?_
  simp only [Function.comp]
  split <;> rfl

theorem lookup_adjust (key : String) (f : α → α) (d : List (String × α)) (k : String) :
    (adjust key f d).lookup k = if k = key then (d.lookup k).map f else d.lookup k := by
  induction d with
  | nil => simp [adjust]
  | cons entry rest ih =>
    obtain ⟨k', v⟩ := entry
    rw [adjust] at ih ⊢
    rw [List.map_cons]
    by_cases hk : k = k'
    · subst hk
      by_cases h : k = key
      · simp [h]
      · simp [h]
    · have hb : (k == k') = false := by simpa using hk
      by_cases h : k' = key
      · simp only [h, if_true, List.lookup_cons, h ▸ hb, ih]
      · simp only [h, if_false, List.lookup_cons, hb, ih]

theorem mem_keys_insert {key k : String} {value : α} {d : List (String × α)}
    (h : k ∈ keys (insert key value d)) : k = key ∨ k ∈ keys d := by
  induction d with
  | nil => simpa [insert, keys] using h
  | cons entry rest ih =>
    rw [insert] at h
    split at h
    · rename_i hk
      subst hk
      simpa [keys] using h
    · split at h
      · simpa [keys] using h
      · rw [keys, List.map_cons, List.mem_cons] at h
        rcases h with h | h
        · exact Or.inr (by simp [keys, h])
        · exact (ih h).imp id fun h => by simp [keys] at h ⊢; exact Or.inr h

theorem Sorted.insert {d : List (String × α)} (hd : Sorted d) (key : String) (value : α) :
    Sorted (Dict.insert key value d) := by
  induction d with
  | nil => simp [Dict.insert, Sorted]
  | cons entry rest ih =>
    obtain ⟨k, v⟩ := entry
    obtain ⟨hk, hr⟩ := List.pairwise_cons.1 hd
    rw [Dict.insert]
    split
    · rename_i h
      subst h
      exact List.pairwise_cons.2 ⟨hk, hr⟩
    · rename_i hne
      split
      · rename_i hlt
        refine List.pairwise_cons.2 ⟨fun e he => ?_, hd⟩
        rcases List.mem_cons.1 he with rfl | he
        · exact hlt
        · exact String.lt_trans hlt (hk e he)
      · rename_i hlt
        refine List.pairwise_cons.2 ⟨fun e he => ?_, ih hr⟩
        have hm : e.1 ∈ keys (Dict.insert key value rest) := List.mem_map_of_mem he
        rcases mem_keys_insert hm with h | h
        · rw [h]
          exact (Std.lt_trichotomy k key).elim id
            fun o => (o.elim (fun e => absurd e.symm hne) fun o => absurd o hlt)
        · obtain ⟨e', he', h'⟩ := List.mem_map.1 h
          rw [← h']
          exact hk e' he'

theorem Sorted.erase {d : List (String × α)} (hd : Sorted d) (key : String) :
    Sorted (Dict.erase key d) :=
  hd.filter _

theorem Sorted.update {d : List (String × α)} (hd : Sorted d) (entries : List (String × α)) :
    Sorted (Dict.update d entries) := by
  induction entries generalizing d with
  | nil => exact hd
  | cons entry rest ih => exact ih (hd.insert entry.1 entry.2)

theorem sorted_ofList (entries : List (String × α)) : Sorted (ofList entries) :=
  Sorted.update List.Pairwise.nil entries

end TypedArtifacts.Dict
