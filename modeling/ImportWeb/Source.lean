import ImportWeb.Path
import ImportWeb.Text.Line

/-!
A source file: its path with the name and the extension that it ends in, and its text cut into
lines.
-/

namespace ImportWeb

structure Source (P : Type := Path) where
  path : P
  /-- The file name without its extension. -/
  name : String
  /-- Without its dot, and empty if there is none. -/
  extension : String
  lines : List String
  deriving DecidableEq, Repr, Inhabited

namespace Source

/-- The file of a text, named as its path says. -/
def ofText (path : Path) (text : String) : Source where
  path
  name := String.ofList (path.fileStem?.getD [])
  extension := String.ofList (path.extension?.getD [])
  lines := (Text.lines text.toList).map String.ofList

def lineCount {P : Type} (f : Source P) : Nat := f.lines.length

end Source

end ImportWeb
