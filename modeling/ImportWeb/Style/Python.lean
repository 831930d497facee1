import ImportWeb.Text.Blank
import ImportWeb.Text.Split

/-!
The module tokens of Python's import lines. A comment ends the line, commas separate the
modules of a plain import, and an alias after a module does not count.
-/

namespace ImportWeb.Python

open Text

/-- The line without its comment and without the keyword at its start. -/
def importBody (line : List Char) : List Char :=
  let code := before '#' line
  (dropPrefix? "import".toList (trimStart code)).getD code

/-- The first word of every item between the commas. -/
def importTokens (line : List Char) : List (List Char) :=
  (splitAtChar ',' (importBody line)).filterMap fun item => (words item).head?

/-- The second word of the line, which names the module that something comes from. -/
def fromTokens (line : List Char) : List (List Char) := ((words (before '#' line))[1]?).toList

end ImportWeb.Python
