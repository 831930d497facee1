import ImportWeb.Pattern.Parser
import ImportWeb.Pattern.Search

/-!
Compiled patterns, of which one named group is of interest.
-/

namespace ImportWeb

structure Pattern where
  /-- Whether the pattern has the group of interest. -/
  hasGroup : Bool
  program : Pattern.Program
  deriving Repr, Inhabited

namespace Pattern

/-- Compiles a pattern text; none if it is not a regular expression. -/
def compile? (group : String) (text : List Char) : Option Pattern := do
  let e ← Expr.ofText? text
  return ⟨e.hasGroup group.toList, e.program group.toList⟩

def isMatch (p : Pattern) (s : List Char) : Bool := (search p.program s).isSome

/-- The text of the group in the preferred match, if it took part in it. -/
def captured? (p : Pattern) (s : List Char) : Option (List Char) := do
  let marks ← search p.program s
  let opened ← marks.opened
  let closed ← marks.closed
  return (s.drop opened).take (closed - opened)

end Pattern

end ImportWeb
