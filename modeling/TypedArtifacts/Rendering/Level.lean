import TypedArtifacts.Violation

namespace TypedArtifacts

inductive ShowLevel where
  | none
  | basic
  | direct
  | transitive
  deriving DecidableEq

namespace ShowLevel

def name : ShowLevel → String
  | none => "none"
  | basic => "basic"
  | direct => "direct"
  | transitive => "transitive"

def all : List ShowLevel :=
  [none, basic, direct, transitive]

def rank : ShowLevel → Nat
  | none => 0
  | basic => 1
  | direct => 2
  | transitive => 3

def nested : ShowLevel → Option ShowLevel
  | none => Option.none
  | basic => Option.none
  | direct => some none
  | transitive => some direct

def above (level : ShowLevel) : List ShowLevel :=
  all.filter fun other => level.rank < other.rank

def ofName? (text : String) : Option ShowLevel :=
  all.find? (·.name = text)

def parse (text : String) : Except ValidationError ShowLevel :=
  match ofName? text with
  | some level => .ok level
  | Option.none => .error ⟨"show_level", .unknownLevel, some (.str text)⟩

theorem ofName?_name (l : ShowLevel) : ofName? l.name = some l := by
  cases l <;> decide

theorem rank_nested {l l' : ShowLevel} (h : l.nested = some l') : l'.rank < l.rank := by
  cases l <;> cases h <;> decide

end ShowLevel

end TypedArtifacts
