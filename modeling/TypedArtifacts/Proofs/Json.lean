import TypedArtifacts.Json.Fields
import TypedArtifacts.Proofs.Dict
import TypedArtifacts.Proofs.Outcome

namespace TypedArtifacts.Json

variable {α : Type} {read : Json → Option α} {write : α → Json}

lemma lookup_record {fields : List (String × Json)} (h : (Dict.keys fields).Nodup) :
    ∀ e ∈ fields, (Dict.ofList fields).lookup e.1 = some e.2 := fun e he => by
  rw [Dict.lookup_ofList h]
  exact Dict.lookup_of_mem h he

lemma nat64?_ofNat {n : ℕ} (h : n < UInt64.size) : (ofNat n).nat64? = some n := by
  rw [ofNat, nat64?, if_pos ⟨Int.natCast_nonneg n, Int.ofNat_lt.2 h⟩, Int.toNat_natCast]

lemma bind_str? {o : Option Json} {s : String} (h : o = some (.str s)) :
    o.bind (·.str?) = some s := by
  rw [h, Option.bind_some, str?]

lemma bind_constant? {o : Option Json} {name : String} {ofName? : String → Option α} {a : α}
    (h : o = some (.str name)) (ha : ofName? name = some a) :
    (o.bind (·.constant?)).bind ofName? = some a := by
  rw [h, Option.bind_some, constant?, Option.bind_some, ha]

lemma optional?_ofOption {text : α → String} {o : Option Json} {x : Option α}
    (ho : o = some (ofOption (fun a => .str (text a)) x))
    (h : ∀ a ∈ x, read (.str (text a)) = some a) : optional? read o = some x := by
  subst ho
  cases x with
  | none => rfl
  | some a => exact congrArg (Option.map some) (h a rfl)

lemma optional?_str? {o : Option Json} {x : Option String} (h : o = some (ofOption .str x)) :
    optional? str? o = some x :=
  optional?_ofOption h fun _ _ => rfl

lemma listOf?_arr {as : List α} (h : ∀ a ∈ as, read (write a) = some a) :
    listOf? read (.arr (as.map write)) = some as :=
  Outcome.mapM_map_eq_some h

lemma dictOf?_obj {d : List (String × α)} (h : ∀ e ∈ d, read (write e.2) = some e.2) :
    dictOf? read (.obj (Dict.mapValues write d)) = some d :=
  Outcome.mapM_map_eq_some fun e he => congrArg (Option.map fun a => (e.1, a)) (h e he)

end TypedArtifacts.Json
