import TypedArtifacts.Catalog
import TypedArtifacts.Patch.Path
import TypedArtifacts.Storage

namespace TypedArtifacts

inductive LinkError where
  | circular (id attributeName : String)
  | notFound (id : String)
  | notActive (id target : String) (state : Lifecycle)
  | populated (attributeName : String)
  | tooDeep (bound : Nat)
  deriving DecidableEq

def LinkError.message : LinkError → String
  | circular id attributeName =>
    "circular dependency: artifact '" ++ id ++ "' cannot depend on itself via '" ++ attributeName ++ "'"
  | notFound id => "dependency '" ++ id ++ "' not found"
  | notActive id target state =>
    "not all dependencies are in 'active' state: '" ++ target ++ "' of artifact '" ++ id ++ "' is '" ++
      state.name ++ "'"
  | populated attributeName => "dependency property '" ++ attributeName ++ "' has to be deleted first"
  | tooDeep bound => "proxy chain deeper than " ++ toString bound ++ " layers"

inductive Corruption where
  | missing (target : String)
  | notExpanded (target : String)
  deriving DecidableEq

def Corruption.message : Corruption → String
  | missing target => "dependency '" ++ target ++ "' is missing"
  | notExpanded target => "dependency '" ++ target ++ "' was not expanded"

inductive QueryError where
  | sortKey (name : String)
  | filter (name : String)
  | marker (id : String)
  deriving DecidableEq

def QueryError.message : QueryError → String
  | sortKey name => "cannot sort by '" ++ name ++ "'"
  | filter name => "cannot filter by '" ++ name ++ "'"
  | marker id => "marker '" ++ id ++ "' not found"

inductive Forbidden where
  | expected (id : String) (state wanted : Lifecycle)
  | unpublishable (id : String) (state : Lifecycle)
  deriving DecidableEq

def Forbidden.message : Forbidden → String
  | expected id state wanted =>
    "artifact '" ++ id ++ "' is '" ++ state.name ++ "', expected '" ++ wanted.name ++ "'"
  | unpublishable id state =>
    "artifact '" ++ id ++ "' is '" ++ state.name ++ "', only 'creating' artifacts can be published"

inductive StoreError where
  | notFound (id : String)
  | duplicate (id : String)
  | forbidden (reason : Forbidden)
  | corrupt (id : String) (reason : Corruption)
  | invalidQuery (reason : QueryError)
  deriving DecidableEq

def StoreError.message : StoreError → String
  | notFound id => "artifact '" ++ id ++ "' not found"
  | duplicate id => "artifact '" ++ id ++ "' already exists"
  | forbidden reason => "operation forbidden: " ++ reason.message
  | corrupt id reason => "stored artifact '" ++ id ++ "' does not match its schema: " ++ reason.message
  | invalidQuery reason => "invalid query: " ++ reason.message

inductive Fault where
  | validation (e : ValidationError)
  | schema (e : SchemaError)
  | path (e : PathError)
  | link (e : LinkError)
  | catalog (e : CatalogError)
  | store (e : StoreError)
  | storage (e : StorageError)

namespace Fault

def message : Fault → String
  | validation e => e.message
  | schema e => e.message
  | path e => e.message
  | link e => e.message
  | catalog e => e.message
  | store e => e.message
  | storage e => e.message

def value? : Fault → Option Json
  | validation e => e.value
  | _ => none

end Fault

end TypedArtifacts
