import TypedArtifacts.ArtifactType

namespace TypedArtifacts

inductive CatalogError where
  | unknownType (name : String) (version : Option String)
  | unknownEndpoint (endpoint : String)
  | duplicate (name version : String)
  deriving DecidableEq

def CatalogError.message : CatalogError → String
  | unknownType name version =>
    "unknown artifact type '" ++ name ++ "' (version " ++ version.getD "any" ++ ")"
  | unknownEndpoint endpoint => "no artifact type is served at endpoint '" ++ endpoint ++ "'"
  | duplicate name version =>
    "artifact type '" ++ name ++ "' version " ++ version ++ " is already registered"

structure Catalog where
  types : List ArtifactType := []

namespace Catalog

def precedes (t u : ArtifactType) : Bool :=
  t.name < u.name || (t.name = u.name && t.version < u.version)

def place (t : ArtifactType) : List ArtifactType → List ArtifactType
  | [] => [t]
  | u :: us => if precedes t u then t :: u :: us else u :: place t us

def register (c : Catalog) (t : ArtifactType) : Except CatalogError Catalog :=
  if c.types.any fun u => u.name = t.name && u.version = t.version then
    .error (.duplicate t.name t.version)
  else .ok ⟨place t c.types⟩

def notAfter (t u : ArtifactType) : Bool :=
  match t.parsedVersion?, u.parsedVersion? with
  | some v, some w => (Version.precedence v w).isLE
  | some _, none => false
  | none, _ => true

def latest? : List ArtifactType → Option ArtifactType
  | [] => none
  | t :: ts => some (ts.foldl (fun best t => if notAfter best t then t else best) t)

def choose? (version : Option String) (candidates : List ArtifactType) : Option ArtifactType :=
  match version with
  | some version => candidates.find? (·.version = version)
  | none => latest? candidates

def byName (c : Catalog) (name : String) (version : Option String := none) :
    Except CatalogError ArtifactType :=
  match choose? version (c.types.filter (·.name = name)) with
  | some t => .ok t
  | none => .error (.unknownType name version)

def byEndpoint (c : Catalog) (endpoint : String) (version : Option String := none) :
    Except CatalogError ArtifactType :=
  match choose? version (c.types.filter (·.endpoint = endpoint)) with
  | some t => .ok t
  | none => .error (.unknownEndpoint endpoint)

theorem mem_place {t u : ArtifactType} {ts : List ArtifactType} :
    u ∈ place t ts ↔ u = t ∨ u ∈ ts := by
  induction ts with
  | nil => simp [place]
  | cons v vs ih =>
    rw [place]
    split
    · simp
    · simp only [List.mem_cons, ih]
      exact or_left_comm

end Catalog

end TypedArtifacts
