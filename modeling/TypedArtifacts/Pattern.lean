import TypedArtifacts.Pattern.Parser

namespace TypedArtifacts

structure Pattern where
  source : String
  tree : Pattern.Tree
  deriving DecidableEq

namespace Pattern

def compile? (source : String) : Option Pattern :=
  let cs := source.toList
  match readAlternatives? (3 * cs.length + 3) {} cs with
  | some (tree, _, []) => some ⟨source, tree⟩
  | _ => none

def accepts (p : Pattern) (text : String) : Bool :=
  p.tree.occursIn text.toList

end Pattern

end TypedArtifacts
