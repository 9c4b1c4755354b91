import TypedArtifacts.Store.Expansion
import TypedArtifacts.Store.Query

/-!
The store of bags. Bags are kept with dependencies as ids and handed out with all of them expanded.
-/

namespace TypedArtifacts

structure Store where
  bags : List (String × Bag) := []

namespace Store

def size (s : Store) : Nat :=
  s.bags.length

def find? (s : Store) (id : String) : Option Bag :=
  s.bags.lookup id

def put (b : Bag) (s : Store) : Store :=
  ⟨Dict.insert b.id b.collapsed s.bags⟩

def fetch (s : Store) (id : String) : Except StoreError Bag :=
  match s.find? id with
  | some b => b.expand s.bags
  | none => .error (.notFound id)

def get (s : Store) (id : String) (typeName : Option String := none) (typeVersion : Option String := none) :
    Except StoreError Bag :=
  match s.find? id with
  | some b =>
    if typeName.all (· = b.typeName) && typeVersion.all (· = b.typeVersion) then b.expand s.bags
    else .error (.notFound id)
  | none => .error (.notFound id)

def list (s : Store) (q : Query) : Except StoreError (List Bag) := do
  let bags ← (q.page (Dict.values s.bags)).mapError .invalidQuery
  bags.mapM (·.expand s.bags)

def add (b : Bag) (s : Store) : Store × Except StoreError Bag :=
  match s.find? b.id with
  | some _ => (s, .error (.duplicate b.id))
  | none =>
    let s := s.put b
    (s, s.fetch b.id)

def save (now : Instant) (b : Bag) (s : Store) : Store × Except StoreError Bag :=
  match s.find? b.id with
  | none => (s, .error (.notFound b.id))
  | some _ =>
    let s := s.put { b with updatedAt := now }
    (s, s.fetch b.id)

def remove (now : Instant) (id : String) (s : Store) : Store × Except StoreError Unit :=
  match s.find? id with
  | none => (s, .error (.notFound id))
  | some b =>
    (s.put { b with state := .deleted, deletedAt := some now, updatedAt := now }, .ok ())

def publish (now : Instant) (b : Bag) (s : Store) : Store × Except StoreError Bag :=
  match s.find? b.id with
  | none => (s, .error (.notFound b.id))
  | some stored =>
    if stored.state = .creating then
      let s := s.put { b with state := .active, publishedAt := some now, updatedAt := now }
      (s, s.fetch b.id)
    else (s, .error (.forbidden (.unpublishable b.id stored.state)))

@[simp] theorem find?_put_self (b : Bag) (s : Store) : (s.put b).find? b.id = some b.collapsed :=
  Dict.lookup_insert_self _ _ _

theorem find?_put_of_ne {id : String} {b : Bag} (h : id ≠ b.id) (s : Store) :
    (s.put b).find? id = s.find? id :=
  Dict.lookup_insert_of_ne h _ _

end Store

end TypedArtifacts
