import TypedArtifacts.Value
import TypedArtifacts.Pattern
import TypedArtifacts.Text.Quoted

namespace TypedArtifacts

inductive Shape where
  | string
  | integer
  | numeric
  | boolean
  | datetime
  | list
  | dict
  | artifact
  | blob
  deriving DecidableEq

namespace Shape

def fits {ρ : Type} : Shape → Value ρ → Bool
  | string, .string _ => true
  | string, .text _ => true
  | integer, .integer _ => true
  | numeric, .numeric _ => true
  | numeric, .integer _ => true
  | boolean, .boolean _ => true
  | datetime, .instant _ => true
  | list, .list _ => true
  | dict, .dict _ => true
  | artifact, .artifact _ => true
  | blob, .blob _ => true
  | _, _ => false

def name : Shape → String
  | string => "string"
  | integer => "integer"
  | numeric => "numeric"
  | boolean => "boolean"
  | datetime => "datetime"
  | list => "list"
  | dict => "dict"
  | artifact => "artifact"
  | blob => "blob"

end Shape

class Predicates (ρ : Type) where
  accepts : String → Value ρ → Bool

inductive Limit where
  | minLength (n : Nat)
  | maxLength (n : Nat)
  | pattern (p : Pattern)
  | minValue (x : Binary64)
  | maxValue (x : Binary64)
  | minSize (n : Nat)
  | maxSize (n : Nat)
  | unique
  | minKeys (n : Nat)
  | maxKeys (n : Nat)
  | referenceTypes (names : List String)
  | referenceVersion (version : String)
  | minBlobSize (n : Nat)
  | maxBlobSize (n : Nat)
  | minLocations (n : Nat)
  | maxLocations (n : Nat)
  deriving DecidableEq

namespace Limit

def boundStyle : NumberStyle where
  tie := .up
  positional := none
  wholeFraction := false
  nan := "NaN"
  infinity := "inf"

def slot : Limit → String
  | minLength _ => "min_length"
  | maxLength _ => "max_length"
  | pattern _ => "pattern"
  | minValue _ => "min_value"
  | maxValue _ => "max_value"
  | minSize _ => "min_size"
  | maxSize _ => "max_size"
  | unique => "unique"
  | minKeys _ => "min_keys"
  | maxKeys _ => "max_keys"
  | referenceTypes _ => "references"
  | referenceVersion _ => "reference_version"
  | minBlobSize _ => "min_blob_size"
  | maxBlobSize _ => "max_blob_size"
  | minLocations _ => "min_locations"
  | maxLocations _ => "max_locations"

def message : Limit → String
  | minLength n => "Length is less than minimum " ++ toString n
  | maxLength n => "Length is greater than maximum " ++ toString n
  | pattern p => "Does not match pattern '" ++ p.source ++ "'"
  | minValue x => "Value is less than minimum " ++ boundStyle.write x
  | maxValue x => "Value is greater than maximum " ++ boundStyle.write x
  | minSize n => "List size is less than " ++ toString n
  | maxSize n => "List size is greater than " ++ toString n
  | unique => "Items have to be unique"
  | minKeys n => "Dict size is less than " ++ toString n
  | maxKeys n => "Dict size is greater than " ++ toString n
  | referenceTypes names => "Referenced artifact must be of type " ++ " or ".intercalate names
  | referenceVersion version => "Referenced artifact must be of version " ++ version
  | minBlobSize n => "Blob size is less than " ++ toString n
  | maxBlobSize n => "Blob size is greater than " ++ toString n
  | minLocations n => "Blob has fewer than " ++ toString n ++ " locations"
  | maxLocations n => "Blob has more than " ++ toString n ++ " locations"

def keyword : Limit → String × Json
  | minLength n => ("minLength", .ofNat n)
  | maxLength n => ("maxLength", .ofNat n)
  | pattern p => ("pattern", .str p.source)
  | minValue x => ("minimum", .ofFloat x)
  | maxValue x => ("maximum", .ofFloat x)
  | minSize n => ("minItems", .ofNat n)
  | maxSize n => ("maxItems", .ofNat n)
  | unique => ("uniqueItems", .bool true)
  | minKeys n => ("minProperties", .ofNat n)
  | maxKeys n => ("maxProperties", .ofNat n)
  | referenceTypes names => ("references", .ofStrings names)
  | referenceVersion version => ("referenceVersion", .str version)
  | minBlobSize n => ("minSize", .ofNat n)
  | maxBlobSize n => ("maxSize", .ofNat n)
  | minLocations n => ("minLocations", .ofNat n)
  | maxLocations n => ("maxLocations", .ofNat n)

variable {ρ : Type} [Referent ρ]

def hasRepeat : List (Value ρ) → Bool
  | [] => false
  | v :: vs => vs.any (Referent.equal v) || hasRepeat vs

def violatedBy : Limit → Value ρ → Bool
  | minLength n, v => v.text?.any (·.length < n)
  | maxLength n, v => v.text?.any (n < ·.length)
  | pattern p, v => v.text?.any fun s => !p.accepts s
  | minValue x, v => v.number?.any (·.lt x)
  | maxValue x, v => v.number?.any (x.lt ·)
  | minSize n, v => v.list?.any (·.length < n)
  | maxSize n, v => v.list?.any (n < ·.length)
  | unique, v => v.list?.any hasRepeat
  | minKeys n, v => v.dict?.any (·.length < n)
  | maxKeys n, v => v.dict?.any (n < ·.length)
  | referenceTypes names, v => v.artifact?.any fun a => !names.contains (Referent.typeName a)
  | referenceVersion version, v => v.artifact?.any fun a => Referent.typeVersion a != version
  | minBlobSize n, v => v.blob?.any (·.size < n)
  | maxBlobSize n, v => v.blob?.any (n < ·.size)
  | minLocations n, v => v.blob?.any (·.locations.length < n)
  | maxLocations n, v => v.blob?.any (n < ·.locations.length)

end Limit

inductive Rule (ρ : Type) where
  | shape (s : Shape)
  | limit (l : Limit)
  | allowedValues (values : List (Value ρ))
  | custom (predicate : String)

namespace Rule

variable {ρ : Type}

def violatedBy [Referent ρ] [Predicates ρ] : Rule ρ → Value ρ → Bool
  | shape s, v => !s.fits v
  | limit l, v => l.violatedBy v
  | allowedValues values, v => !values.any (Referent.equal · v)
  | custom predicate, v => !Predicates.accepts predicate v

def message : Rule ρ → String
  | shape s => "Value must be of type " ++ s.name
  | limit l => l.message
  | allowedValues _ => "Value is not one of the allowed values"
  | custom _ => "Value failed validation"

def keyword? [Referent ρ] : Rule ρ → Option (String × Json)
  | shape _ => none
  | limit l => some l.keyword
  | allowedValues values => some ("enum", .arr (values.map (·.toJson)))
  | custom _ => none

def describe [Referent ρ] : Rule ρ → String
  | custom _ => "Custom(..)"
  | limit (.pattern p) => "Pattern(" ++ Text.quoted p.source ++ ")"
  | rule =>
    match rule.keyword? with
    | some (key, value) => key ++ "=" ++ value.compact
    | none => rule.message

end Rule

structure Validator (ρ : Type) where
  slot : String
  rule : Rule ρ
  message : String

namespace Validator

variable {ρ : Type}

def ofRule (slot : String) (rule : Rule ρ) : Validator ρ :=
  ⟨slot, rule, rule.message⟩

/-- Puts a validator in the place of the one in its slot, or at the end. -/
def install (v : Validator ρ) : List (Validator ρ) → List (Validator ρ)
  | [] => [v]
  | w :: ws => if w.slot = v.slot then v :: ws else w :: install v ws

theorem mem_slots_install (v : Validator ρ) (vs : List (Validator ρ)) (slot : String) :
    slot ∈ (install v vs).map (·.slot) ↔ slot = v.slot ∨ slot ∈ vs.map (·.slot) := by
  induction vs with
  | nil => simp [install]
  | cons w ws ih =>
    rw [install]
    split
    · rename_i h
      simp [h]
    · simp only [List.map_cons, List.mem_cons, ih]
      grind

theorem nodup_install (v : Validator ρ) {vs : List (Validator ρ)} (h : (vs.map (·.slot)).Nodup) :
    ((install v vs).map (·.slot)).Nodup := by
  induction vs with
  | nil => simp [install]
  | cons w ws ih =>
    obtain ⟨hw, hs⟩ := List.nodup_cons.1 h
    rw [install]
    split
    · rename_i heq
      have hv : v.slot ∉ ws.map (·.slot) := heq ▸ hw
      exact List.nodup_cons.2 ⟨hv, hs⟩
    · rename_i hne
      refine List.nodup_cons.2 ⟨fun hm => ?_, ih hs⟩
      rcases (mem_slots_install v ws w.slot).1 hm with h | h
      · exact hne h
      · exact hw h

end Validator

end TypedArtifacts
