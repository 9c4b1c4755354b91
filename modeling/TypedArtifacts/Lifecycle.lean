import TypedArtifacts.Violation

namespace TypedArtifacts

inductive Lifecycle where
  | creating
  | active
  | deactivated
  | deleted
  deriving DecidableEq

namespace Lifecycle

def name : Lifecycle → String
  | creating => "creating"
  | active => "active"
  | deactivated => "deactivated"
  | deleted => "deleted"

def all : List Lifecycle :=
  [creating, active, deactivated, deleted]

def ofName? (text : String) : Option Lifecycle :=
  all.find? (·.name = text)

def parse (text : String) : Except ValidationError Lifecycle :=
  match ofName? text with
  | some state => .ok state
  | none => .error ⟨"state", .unknownState, some (.str text)⟩

theorem ofName?_name (s : Lifecycle) : ofName? s.name = some s := by
  cases s <;> decide

end Lifecycle

inductive Visibility where
  | personal
  | everyone
  | shared
  | community
  deriving DecidableEq

namespace Visibility

def name : Visibility → String
  | personal => "private"
  | everyone => "public"
  | shared => "shared"
  | community => "community"

def all : List Visibility :=
  [personal, everyone, shared, community]

def ofName? (text : String) : Option Visibility :=
  all.find? (·.name = text)

theorem ofName?_name (v : Visibility) : ofName? v.name = some v := by
  cases v <;> decide

end Visibility

end TypedArtifacts
