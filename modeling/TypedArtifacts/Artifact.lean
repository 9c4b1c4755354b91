import TypedArtifacts.Definition
import TypedArtifacts.Lifecycle

namespace TypedArtifacts

inductive Mutability where
  | whileState (state : Lifecycle)
  | untilFlagSet (flag : String)
  | custom (predicate : String)
  deriving DecidableEq

def Mutability.describe : Mutability → String
  | whileState state => "WhileState(" ++ state.name ++ ")"
  | untilFlagSet flag => "UntilFlagSet(" ++ flag ++ ")"
  | custom _ => "Custom(..)"

structure TypeHeader where
  name : String
  version : String
  displayName : String
  description : Option String
  endpoint : String
  mutability : Mutability
  deriving DecidableEq

structure Header where
  id : String
  name : String
  version : String
  visibility : Visibility
  state : Lifecycle
  owner : Option String
  createdAt : Instant
  updatedAt : Instant
  publishedAt : Option Instant
  deletedAt : Option Instant
  tags : List String
  description : Option String
  deriving DecidableEq

namespace Header

def tagSet (tags : List String) : List String :=
  Dict.keys (Dict.ofList (tags.map fun tag => (tag, ())))

def toFields (write : Instant → String) (h : Header) : List (String × Json) :=
  let moment (t : Instant) : Json := .str (write t)
  [("id", .str h.id), ("name", .str h.name), ("version", .str h.version),
    ("visibility", .str h.visibility.name), ("state", .str h.state.name),
    ("owner", .ofOption .str h.owner), ("created_at", moment h.createdAt),
    ("updated_at", moment h.updatedAt), ("published_at", .ofOption moment h.publishedAt),
    ("deleted_at", .ofOption moment h.deletedAt), ("tags", .ofStrings h.tags),
    ("description", .ofOption .str h.description)]

end Header

/-- An attribute of an artifact. A read-only one is `assigned` once it was given a value. -/
structure Field (ρ : Type) where
  definition : Definition ρ
  stored : Option (Value ρ)
  assigned : Bool

namespace Field

variable {ρ : Type}

def value? (f : Field ρ) : Option (Value ρ) :=
  f.stored.or f.definition.default

def materialize (f : Field ρ) : Field ρ :=
  { f with stored := f.value? }

def blank (d : Definition ρ) : Field ρ :=
  ⟨d, none, false⟩

@[simp] theorem value?_materialize (f : Field ρ) : f.materialize.value? = f.value? := by
  simp only [materialize, value?]
  cases f.stored <;> cases f.definition.default <;> rfl

end Field

structure Artifact extends Header where
  type : TypeHeader
  fields : List (String × Field Artifact)

namespace Artifact

mutual

/-- Equal common fields, types of the same name and version, and equal values of equal names. -/
def same : Artifact → Artifact → Bool
  | ⟨header, type, fields⟩, other =>
    header = other.toHeader && type.name = other.type.name && type.version = other.type.version &&
      sameFields fields other.fields
  termination_by structural x => x

def sameFields : List (String × Field Artifact) → List (String × Field Artifact) → Bool
  | [], [] => true
  | (name, f) :: fields, (name', f') :: fields' =>
    name = name' && sameField f f'.value? && sameFields fields fields'
  | _, _ => false
  termination_by structural x => x

def sameField : Field Artifact → Option (Value Artifact) → Bool
  | ⟨_, some v, _⟩, some w => sameValue v w
  | ⟨⟨⟨_, _, _, _, _, _, some v, _, _⟩, _⟩, none, _⟩, some w => sameValue v w
  | ⟨⟨⟨_, _, _, _, _, _, none, _, _⟩, _⟩, none, _⟩, none => true
  | _, _ => false
  termination_by structural x => x

def sameValue : Value Artifact → Value Artifact → Bool
  | .string s, .string s' => s = s'
  | .text s, .text s' => s = s'
  | .integer n, .integer n' => n = n'
  | .numeric x, .numeric x' => x.equals x'
  | .boolean b, .boolean b' => b = b'
  | .instant t, .instant t' => t = t'
  | .list vs, .list vs' => sameItems vs vs'
  | .dict es, .dict es' => sameEntries es es'
  | .blob b, .blob b' => b = b'
  | .artifact a, .artifact a' => same a a'
  | _, _ => false
  termination_by structural x => x

def sameItems : List (Value Artifact) → List (Value Artifact) → Bool
  | [], [] => true
  | v :: vs, v' :: vs' => sameValue v v' && sameItems vs vs'
  | _, _ => false
  termination_by structural x => x

def sameEntries : List (String × Value Artifact) → List (String × Value Artifact) → Bool
  | [], [] => true
  | (k, v) :: es, (k', v') :: es' => k = k' && sameValue v v' && sameEntries es es'
  | _, _ => false
  termination_by structural x => x

end

instance : Referent Artifact where
  id a := a.id
  typeName a := a.type.name
  typeVersion a := a.type.version
  equal := sameValue

end Artifact

end TypedArtifacts
