import TypedArtifacts.Json

namespace TypedArtifacts.Json

structure Conventions where
  surplus : Bool
  isVoid : Json → Bool

def strict : Conventions :=
  ⟨false, isNull⟩

def constant? (j : Json) (c : Conventions := strict) : Option String :=
  match j with
  | str s => some s
  | obj [(name, value)] => if c.isVoid value then some name else none
  | _ => none

def fields? (names : List String) (least : Nat) (j : Json) (c : Conventions := strict) :
    Option (List (String × Json)) :=
  match j with
  | obj fields => some fields
  | arr items =>
    if least ≤ items.length ∧ (items.length ≤ names.length ∨ c.surplus) then some (names.zip items)
    else none
  | _ => none

def optional? {α : Type} (read : Json → Option α) : Option Json → Option (Option α)
  | none => some none
  | some null => some none
  | some j => (read j).map some

def defaulted? {α : Type} (read : Json → Option α) (default : α) : Option Json → Option α
  | none => some default
  | some j => read j

def nullable? {α : Type} (read : Json → Option α) : Json → Option (Option α)
  | null => some none
  | j => (read j).map some

def listOf? {α : Type} (read : Json → Option α) (j : Json) : Option (List α) :=
  j.arr?.bind (·.mapM read)

def dictOf? {α : Type} (read : Json → Option α) (j : Json) : Option (List (String × α)) :=
  j.obj?.bind (·.mapM fun (k, j) => (read j).map fun a => (k, a))

end TypedArtifacts.Json
