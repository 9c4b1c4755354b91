/-!
Patch paths: a slash before every segment, with `~0` for a tilde and `~1` for a slash inside one.
-/

namespace TypedArtifacts

inductive PathFault where
  | noLeadingSlash
  | trailingSlash
  | emptySegment
  | badEscape
  | noAttributeSegment
  | noPosition (segment : String)
  | notIndex (segment : String)
  | valueMissing (operation : String)
  | operationNotAllowed (operation : String)
  | noAttribute (name : String)
  | noKey (segment : String)
  | noElement (place segment : String)
  deriving DecidableEq

namespace PathFault

def message : PathFault → String
  | noLeadingSlash => "Path must start with '/'"
  | trailingSlash => "Path must not end with '/'"
  | emptySegment => "Path must not contain empty segments"
  | badEscape => "Invalid escape sequence, '~' must be followed by '0' or '1'"
  | noAttributeSegment => "Path must address an attribute"
  | noPosition segment => "Array has no element at position " ++ segment
  | notIndex segment => "'" ++ segment ++ "' is not an array index"
  | valueMissing operation => "Operation '" ++ operation ++ "' requires a value"
  | operationNotAllowed operation => "Operation '" ++ operation ++ "' is not allowed"
  | noAttribute name => "No such attribute '" ++ name ++ "'"
  | noKey segment => "No such key '" ++ segment ++ "' in a dict"
  | noElement place segment => "Attribute '" ++ place ++ "' has no element '" ++ segment ++ "'"

end PathFault

structure PathError where
  path : String
  fault : PathFault
  deriving DecidableEq

def PathError.message (e : PathError) : String :=
  "invalid path '" ++ e.path ++ "': " ++ e.fault.message

namespace Patch.Path

def unescape : List Char → Option (List Char)
  | [] => some []
  | '~' :: '0' :: cs => (unescape cs).map ('~' :: ·)
  | '~' :: '1' :: cs => (unescape cs).map ('/' :: ·)
  | c :: cs => if c = '~' then none else (unescape cs).map (c :: ·)

def escape : List Char → List Char
  | [] => []
  | c :: cs =>
    if c = '~' then '~' :: '0' :: escape cs
    else if c = '/' then '~' :: '1' :: escape cs
    else c :: escape cs

def endsWithSlash (cs : List Char) : Bool :=
  cs.getLast? = some '/'

def hasEmptySegment : List Char → Bool
  | '/' :: '/' :: _ => true
  | _ :: cs => hasEmptySegment cs
  | [] => false

def segments : List Char → Except PathFault (List (List Char))
  | '/' :: body =>
    if endsWithSlash ('/' :: body) then .error .trailingSlash
    else if hasEmptySegment ('/' :: body) then .error .emptySegment
    else
      match (body.splitOn '/').mapM unescape with
      | some parts => .ok parts
      | none => .error .badEscape
  | _ => .error .noLeadingSlash

def parse (path : String) : Except PathError (List String) :=
  match segments path.toList with
  | .ok parts => .ok (parts.map String.ofList)
  | .error fault => .error ⟨path, fault⟩

def render (parts : List String) : String :=
  String.ofList (parts.flatMap fun part => '/' :: escape part.toList)

theorem unescape_escape (cs : List Char) : unescape (escape cs) = some cs := by
  induction cs with
  | nil => rfl
  | cons c cs ih =>
    rw [escape]
    split
    · rename_i h
      simp [unescape, ih, h]
    · split
      · rename_i h
        simp [unescape, ih, h]
      · rename_i h _
        rw [unescape]
        · simp [h, ih]
        · intro _ hc
          exact absurd hc h
        · intro _ hc
          exact absurd hc h

end Patch.Path

end TypedArtifacts
