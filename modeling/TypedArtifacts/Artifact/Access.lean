import TypedArtifacts.Artifact
import TypedArtifacts.Definition.Normal
import TypedArtifacts.Definition.Validation

namespace TypedArtifacts

class ArtifactPredicates where
  accepts : String → Artifact → Bool

namespace Field

variable {ρ : Type}

def isReadOnly (f : Field ρ) (artifactMutable : Bool) : Bool :=
  (f.definition.readonly && f.assigned) || (!f.definition.mutable && !artifactMutable)

def checkWritable (name : String) (f : Field ρ) (artifactMutable : Bool) : Except ValidationError Unit :=
  if f.definition.readonly && f.assigned then .error ⟨name, .readOnly, none⟩
  else if !f.definition.mutable && !artifactMutable then .error ⟨name, .frozen, none⟩
  else .ok ()

def commit (f : Field ρ) (v : Option (Value ρ)) : Field ρ :=
  { f with stored := v, assigned := f.assigned || (f.definition.readonly && v.isSome) }

def store [Referent ρ] [Predicates ρ] (name : String) (f : Field ρ) (v : Option (Value ρ)) :
    Except ValidationError (Field ρ) := do
  let v := v.map f.definition.normalize
  f.definition.validateAs name v
  return f.commit v

def set [Referent ρ] [Predicates ρ] (name : String) (f : Field ρ) (v : Option (Value ρ))
    (artifactMutable : Bool) : Except ValidationError (Field ρ) := do
  f.checkWritable name artifactMutable
  f.store name v

theorem checkWritable_eq_ok_iff (name : String) (f : Field ρ) (m : Bool) :
    f.checkWritable name m = .ok () ↔ f.isReadOnly m = false := by
  unfold checkWritable isReadOnly
  cases f.definition.readonly && f.assigned <;> cases !f.definition.mutable && !m <;> simp

end Field

namespace Artifact

def field? (a : Artifact) (name : String) : Option (Field Artifact) :=
  a.fields.lookup name

def withField (name : String) (f : Field Artifact) (a : Artifact) : Artifact :=
  { a with fields := Dict.adjust name (fun _ => f) a.fields }

def peek (a : Artifact) (name : String) : Option (Value Artifact) :=
  (a.field? name).bind (·.value?)

def findField (name : String) (a : Artifact) : Except ValidationError (Field Artifact) :=
  match a.field? name with
  | some f => .ok f
  | none => .error ⟨name, .unknownProperty, none⟩

def fieldsOf (a : Artifact) (role : Role) : List (String × Field Artifact) :=
  a.fields.filter (·.2.definition.role = role)

def values (a : Artifact) : List (String × Option (Value Artifact)) :=
  a.fields.map fun (name, f) => (name, f.value?)

def get (name : String) (a : Artifact) : Except ValidationError (Artifact × Option (Value Artifact)) := do
  let f ← a.findField name
  return (a.withField name f.materialize, f.value?)

def seedDefaults (a : Artifact) : Artifact :=
  { a with fields := Dict.mapValues (·.materialize) a.fields }

def targets : Option (Value Artifact) → List Artifact
  | some (.artifact a) => [a]
  | some (.list vs) => vs.filterMap (·.artifact?)
  | _ => []

def populatedDependencies (a : Artifact) : List (String × List Artifact) :=
  ((a.fieldsOf .dependency).map fun (name, f) => (name, targets f.value?)).filter (!·.2.isEmpty)

def isPopulated : Option (Value Artifact) → Bool
  | some (.list vs) => !vs.isEmpty
  | some _ => true
  | none => false

def checkPublishable (a : Artifact) : Except ValidationError Unit :=
  match (a.fieldsOf .dependency ++ a.fieldsOf .blob).find? fun (_, f) =>
      f.definition.required && !isPopulated f.value? with
  | some (name, _) => .error ⟨name, .required, none⟩
  | none => .ok ()

section

variable [ArtifactPredicates]

def isMutable (a : Artifact) : Bool :=
  match a.type.mutability with
  | .whileState state => a.state = state
  | .untilFlagSet flag => (a.peek flag).bind (·.boolean?) ≠ some true
  | .custom predicate => ArtifactPredicates.accepts predicate a

def isReadOnly (a : Artifact) (name : String) : Bool :=
  (a.field? name).any (·.isReadOnly a.isMutable)

def set [Predicates Artifact] (name : String) (v : Option (Value Artifact)) (a : Artifact) :
    Except ValidationError Artifact := do
  let f ← a.findField name
  let f ← f.set name v a.isMutable
  return a.withField name f

end

end Artifact

end TypedArtifacts
