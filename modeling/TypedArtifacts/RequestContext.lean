/-!
Request contexts: the request, the owner and the artifact that the work at hand belongs to. Scopes nest,
and the end of a scope brings back the context before it.
-/

namespace TypedArtifacts

structure RequestContext where
  requestId : String
  owner : Option String := none
  artifactId : Option String := none
  deriving DecidableEq

namespace RequestContext

inductive Opening where
  | fresh (owner : Option String)
  | request (id : String) (owner : Option String)
  | artifact (id : String)
  deriving DecidableEq

structure Ambient where
  current : Option RequestContext := none
  issued : Nat := 0
  deriving DecidableEq

structure Scope where
  previous : Option RequestContext
  deriving DecidableEq

namespace Ambient

def requestId (t : Ambient) : Option String :=
  t.current.map (·.requestId)

def artifactId (t : Ambient) : Option String :=
  t.current.bind (·.artifactId)

def issue (t : Ambient) : Ambient × String :=
  let t := { t with issued := t.issued + 1 }
  (t, "\x7br" ++ toString t.issued ++ "\x7d")

def replace (context : RequestContext) (t : Ambient) : Ambient × Scope :=
  ({ t with current := some context }, ⟨t.current⟩)

def enter (o : Opening) (t : Ambient) : Ambient × Scope :=
  match o, t.current with
  | .fresh owner, _ =>
    let (t, id) := t.issue
    t.replace ⟨id, owner, none⟩
  | .request id owner, _ => t.replace ⟨id, owner, none⟩
  | .artifact artifact, some context => t.replace { context with artifactId := some artifact }
  | .artifact artifact, none =>
    let (t, id) := t.issue
    t.replace ⟨id, none, some artifact⟩

def leave (s : Scope) (t : Ambient) : Ambient :=
  { t with current := s.previous }

def during {α : Type} (o : Opening) (body : Ambient → Ambient × α) (t : Ambient) : Ambient × α :=
  let (t, s) := t.enter o
  let (t, a) := body t
  (t.leave s, a)

theorem previous_enter (o : Opening) (t : Ambient) : (t.enter o).2.previous = t.current := by
  unfold enter
  split <;> rfl

theorem current_leave (s : Scope) (t : Ambient) : (t.leave s).current = s.previous := rfl

theorem current_during {α : Type} (o : Opening) (body : Ambient → Ambient × α) (t : Ambient) :
    (t.during o body).1.current = t.current :=
  previous_enter o t

end Ambient

end RequestContext

end TypedArtifacts
