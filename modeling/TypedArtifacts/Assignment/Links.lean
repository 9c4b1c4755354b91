import TypedArtifacts.Assignment

/-!
Assignment to dependencies: ids are looked up, layers are taken off, and no artifact may depend on
itself directly.
-/

namespace TypedArtifacts

structure Links where
  lookup : String → Except Fault Artifact
  bound : Nat

namespace Links

def notOwn (own name id : String) : Except Fault Unit :=
  if id = own then .error (.link (.circular own name)) else .ok ()

def resolveId (l : Links) (own name id : String) : Except Fault Artifact := do
  notOwn own name id
  let target ← l.lookup id
  notOwn own name target.id
  return target

def unwrap {η : Type} [Handle η Artifact] (l : Links) (target : η) : Except Fault Artifact :=
  match Handle.unwrap? l.bound target with
  | some a => .ok a
  | none => .error (.link (.tooDeep l.bound))

def hold (isList : Bool) (targets : List Artifact) : Option (Value Artifact) :=
  if isList then some (.list (targets.map .artifact)) else targets.head?.map .artifact

def resolve (l : Links) (own name : String) (isList : Bool) (input : Input) :
    Except Fault (Option (Value Artifact)) :=
  match input with
  | .value v => do
    (Artifact.targets v).forM fun target => notOwn own name target.id
    return v
  | .reference id => do return hold isList [← l.resolveId own name id]
  | .references ids =>
    if isList then do return hold isList (← ids.mapM (l.resolveId own name))
    else .error (.validation ⟨name, .notList, none⟩)
  | .layered target => do
    let a ← l.unwrap target
    notOwn own name a.id
    return hold isList [a]
  | input => .error (input.refused name)

end Links

namespace Artifact

variable [ArtifactPredicates] [Predicates Artifact]

def assignLinked (l : Links) (name : String) (input : Input) (a : Artifact) : Except Fault Artifact := do
  let f ← (a.findField name).mapError .validation
  if f.definition.role = .dependency then
    let v ← l.resolve a.id name f.definition.kind.isList input
    a.assign name (.value v)
  else a.assign name input

end Artifact

end TypedArtifacts
