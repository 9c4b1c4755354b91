/-!
Handles on values under layers of any make, and the bounded walk to the innermost value.
-/

namespace TypedArtifacts

inductive Unwrapped (α η : Type) where
  | base (a : α)
  | layer (inner : η)

/-- Handles, of one make or of several, on values of type `α`. -/
class Handle (η : Type) (α : outParam Type) where
  look : η → Unwrapped α η

namespace Handle

variable {α η : Type} [Handle η α]

def walk? : Nat → η → Option α
  | 0, _ => none
  | steps + 1, x =>
    match look x with
    | .base a => some a
    | .layer inner => walk? steps inner

def unwrap? (bound : Nat) (x : η) : Option α :=
  walk? (bound + 1) x

end Handle

inductive Layered (α : Type) where
  | base (a : α)
  | layer (inner : Layered α)

instance {α : Type} : Handle (Layered α) α where
  look
    | .base a => .base a
    | .layer inner => .layer inner

namespace Layered

def wrap {α : Type} : Nat → Layered α → Layered α
  | 0, l => l
  | n + 1, l => layer (wrap n l)

def depth {α : Type} : Layered α → Nat
  | base _ => 0
  | layer inner => inner.depth + 1

def innermost {α : Type} : Layered α → α
  | base a => a
  | layer inner => inner.innermost

def unwrap? {α : Type} (bound : Nat) (l : Layered α) : Option α :=
  Handle.unwrap? bound l

@[simp] theorem depth_wrap {α : Type} (n : Nat) (l : Layered α) : (wrap n l).depth = n + l.depth := by
  induction n with
  | zero => simp [wrap]
  | succ n ih => simp [wrap, depth, ih]; omega

@[simp] theorem innermost_wrap {α : Type} (n : Nat) (l : Layered α) :
    (wrap n l).innermost = l.innermost := by
  induction n with
  | zero => rfl
  | succ n ih => exact ih

end Layered

end TypedArtifacts
