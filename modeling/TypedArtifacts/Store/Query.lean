import TypedArtifacts.Bag
import TypedArtifacts.Fault

namespace TypedArtifacts

inductive Direction where
  | ascending
  | descending
  deriving DecidableEq

structure Query where
  filters : List (String × String) := []
  sortKeys : List String := []
  directions : List Direction := []
  marker : Option String := none
  limit : Option Nat := none

inductive SortKey where
  | id
  | name
  | version
  | typeName
  | typeVersion
  | state
  | createdAt
  | updatedAt
  | publishedAt
  deriving DecidableEq

namespace SortKey

def ofName? : String → Option SortKey
  | "id" => some id
  | "name" => some name
  | "version" => some version
  | "type_name" => some typeName
  | "type_version" => some typeVersion
  | "state" => some state
  | "created_at" => some createdAt
  | "updated_at" => some updatedAt
  | "published_at" => some publishedAt
  | _ => none

def compareVersions (a b : String) : Ordering :=
  match Version.parse? a, Version.parse? b with
  | some v, some w => Version.precedence v w
  | _, _ => compare a b

def compareOptional : Option Instant → Option Instant → Ordering
  | none, none => .eq
  | none, some _ => .lt
  | some _, none => .gt
  | some s, some t => s.order t

def compare : SortKey → Bag → Bag → Ordering
  | id, a, b => Ord.compare a.id b.id
  | name, a, b => Ord.compare a.name b.name
  | version, a, b => compareVersions a.version b.version
  | typeName, a, b => Ord.compare a.typeName b.typeName
  | typeVersion, a, b => compareVersions a.typeVersion b.typeVersion
  | state, a, b => Ord.compare a.state.name b.state.name
  | createdAt, a, b => a.createdAt.order b.createdAt
  | updatedAt, a, b => a.updatedAt.order b.updatedAt
  | publishedAt, a, b => compareOptional a.publishedAt b.publishedAt

end SortKey

namespace Bag

def meets? (b : Bag) : String → String → Option Bool
  | "id", x => some (b.id = x)
  | "name", x => some (b.name = x)
  | "version", x => some (b.version = x)
  | "type_name", x => some (b.typeName = x)
  | "type_version", x => some (b.typeVersion = x)
  | "visibility", x => some (b.visibility.name = x)
  | "state", x => some (b.state.name = x)
  | "owner", x => some (b.owner = some x)
  | "tags", x => some (b.tags.contains x)
  | _, _ => none

def meetsAll (b : Bag) : List (String × String) → Except QueryError Bool
  | [] => .ok true
  | (field, x) :: rest =>
    match b.meets? field x with
    | none => .error (.filter field)
    | some false => .ok false
    | some true => b.meetsAll rest

end Bag

namespace Query

def sortKeys? (q : Query) : Except QueryError (List SortKey) :=
  q.sortKeys.mapM fun name =>
    match SortKey.ofName? name with
    | some key => .ok key
    | none => .error (.sortKey name)

def orderOf (directions : List Direction) : List SortKey → List (SortKey × Direction)
  | [] => [(.createdAt, .descending)]
  | keys => keys.mapIdx fun i key => (key, (directions[i]?).getD .descending)

def compareBy (a b : Bag) : List (SortKey × Direction) → Ordering
  | [] => compare a.id b.id
  | (key, .ascending) :: rest => (key.compare a b).then (compareBy a b rest)
  | (key, .descending) :: rest => (key.compare b a).then (compareBy a b rest)

def considers (q : Query) (b : Bag) : Bool :=
  Dict.contains "state" q.filters || b.state ≠ .deleted

def select (q : Query) : List Bag → Except QueryError (List Bag)
  | [] => .ok []
  | b :: bs => do
    if !q.considers b then return ← q.select bs
    let keep ← b.meetsAll q.filters
    let rest ← q.select bs
    return if keep then b :: rest else rest

def afterMarker (marker : Option String) (bags : List Bag) : Except QueryError (List Bag) :=
  match marker with
  | none => .ok bags
  | some id =>
    match bags.findIdx? (·.id = id) with
    | some i => .ok (bags.drop (i + 1))
    | none => .error (.marker id)

def upTo (limit : Option Nat) (bags : List Bag) : List Bag :=
  match limit with
  | some n => bags.take n
  | none => bags

def page (q : Query) (bags : List Bag) : Except QueryError (List Bag) := do
  let order := orderOf q.directions (← q.sortKeys?)
  let selected ← q.select bags
  let rest ← afterMarker q.marker (selected.mergeSort fun a b => (compareBy a b order).isLE)
  return upTo q.limit rest

end Query

end TypedArtifacts
