import TypedArtifacts.Artifact.OfBag
import TypedArtifacts.Bag.OfArtifact
import TypedArtifacts.Patch
import TypedArtifacts.Rendering
import TypedArtifacts.RequestContext
import TypedArtifacts.Store

/-!
The engine: types, the store of artifacts and the storage of their bytes, under common settings. Every
operation gives the engine after it, also when it fails.
-/

namespace TypedArtifacts

structure Engine where
  settings : Settings
  catalog : Catalog := {}
  store : Store := {}
  storage : Storage := {}

namespace Engine

def start (settings : Settings) (storage : Storage) : Except SettingsError Engine := do
  settings.check
  return { settings := settings, storage := storage }

section

variable [Predicates Artifact]

def settledRule (e : Engine) (d : Descriptor) : Descriptor :=
  if d.mutability.isSome || d.parent.isSome then d
  else { d with mutability := some (.whileState e.settings.mutableState) }

def registerType (e : Engine) (d : Descriptor) : Except Fault (Engine × ArtifactType) := do
  let t ← (e.settledRule d).declare.mapError .schema
  let catalog ← (e.catalog.register t).mapError .catalog
  return ({ e with catalog := catalog }, t)

def schema (e : Engine) (typeName : String) (typeVersion : Option String) : Except Fault Json := do
  let t ← (e.catalog.byName typeName typeVersion).mapError .catalog
  return t.schema

def create (e : Engine) (typeName : String) (typeVersion : Option String) (id name version : String)
    (now : Instant) : Except Fault Artifact := do
  let t ← (e.catalog.byName typeName typeVersion).mapError .catalog
  (Artifact.create t id name version now).mapError .validation

def get (e : Engine) (id : String) : Except Fault Artifact := do
  Artifact.ofBag e.catalog (← (e.store.get id).mapError .store)

def getTyped (e : Engine) (id typeName : String) (typeVersion : Option String) : Except Fault Artifact := do
  Artifact.ofBag e.catalog (← (e.store.get id (some typeName) typeVersion).mapError .store)

def list (e : Engine) (q : Query) : Except Fault (List Artifact) := do
  let bags ← (e.store.list q).mapError .store
  bags.mapM (Artifact.ofBag e.catalog)

def lookup (e : Engine) (id : String) : Except Fault Artifact :=
  match e.get id with
  | .error (.store (.notFound id)) => .error (.link (.notFound id))
  | r => r

def links (e : Engine) : Links :=
  ⟨e.lookup, e.settings.maxUnwrapDepth⟩

def handOut (e : Engine) : Store × Except StoreError Bag → Engine × Except Fault Artifact
  | (store, r) =>
    ({ e with store := store }, do Artifact.ofBag e.catalog (← r.mapError .store))

def add (a : Artifact) (e : Engine) : Engine × Except Fault Artifact :=
  e.handOut (e.store.add (.ofArtifact a))

def save (now : Instant) (a : Artifact) (e : Engine) : Engine × Except Fault Artifact :=
  e.handOut (e.store.save now (.ofArtifact a))

def remove (now : Instant) (a : Artifact) (e : Engine) : Engine × Except Fault Unit :=
  match a.populatedDependencies with
  | (name, _) :: _ => (e, .error (.link (.populated name)))
  | [] =>
    let (store, r) := e.store.remove now a.id
    ({ e with store := store }, r.mapError .store)

def checkActive (e : Engine) (a target : Artifact) : Except Fault Unit := do
  let current ← e.lookup target.id
  if current.state = .active then return ()
  else throw (.link (.notActive a.id target.id current.state))

def checkPublication (e : Engine) (a : Artifact) : Except Fault Unit := do
  a.checkPublishable.mapError .validation
  (a.populatedDependencies.flatMap (·.2)).forM (e.checkActive a)

def publish (now : Instant) (a : Artifact) (e : Engine) : Engine × Except Fault Artifact :=
  match e.checkPublication a with
  | .error fault => (e, .error fault)
  | .ok _ => e.handOut (e.store.publish now (.ofArtifact a))

def move (wanted next : Lifecycle) (now : Instant) (a : Artifact) (e : Engine) :
    Engine × Except Fault Artifact :=
  if a.state = wanted then e.save now { a with state := next }
  else (e, .error (.store (.forbidden (.expected a.id a.state wanted))))

def deactivate : Instant → Artifact → Engine → Engine × Except Fault Artifact :=
  move .active .deactivated

def reactivate : Instant → Artifact → Engine → Engine × Except Fault Artifact :=
  move .deactivated .active

def write {α : Type} (change : Draft → Draft × Except Fault α) (a : Artifact) (e : Engine) :
    Engine × Artifact × Except Fault α :=
  let (d, r) := change ⟨a, e.storage⟩
  ({ e with storage := d.storage }, d.artifact, r)

def dependencies (a : Artifact) (name : String) : List Artifact :=
  Artifact.targets (a.peek name)

def readBlob (e : Engine) (a : Artifact) (name : String) (index : Option Nat) :
    Except Fault (List UInt8) :=
  a.readBlob name index e.storage

def render (e : Engine) (a : Artifact) (level : Option ShowLevel) : Json :=
  a.render (level.getD e.settings.showLevel) e.settings.urlBase

section

variable [ArtifactPredicates]

def assign (name : String) (input : Input) (a : Artifact) (e : Engine) :
    Engine × Artifact × Except Fault Unit :=
  e.write (Draft.assign e.links name input) a

def patchArtifact (operations : List Patch.Operation) (a : Artifact) (e : Engine) :
    Engine × Artifact × Except Fault Unit :=
  e.write (Draft.patch e.links e.settings.allowedPatches operations) a

def patch (now : Instant) (id : String) (operations : List Patch.Operation) (e : Engine) :
    Engine × Except Fault Artifact :=
  match e.get id with
  | .error fault => (e, .error fault)
  | .ok a =>
    match e.patchArtifact operations a with
    | (e, _, .error fault) => (e, .error fault)
    | (e, a, .ok _) => e.save now a

def patchScoped (now : Instant) (id : String) (operations : List Patch.Operation)
    (t : RequestContext.Ambient) (e : Engine) :
    RequestContext.Ambient × Engine × Except Fault Artifact :=
  t.during (.artifact id) fun t => (t, e.patch now id operations)

end

end

end Engine

end TypedArtifacts
