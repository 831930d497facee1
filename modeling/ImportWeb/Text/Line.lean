/-!
The lines of a text. A line ends in a line feed, and one carriage return right before it
belongs to the ending; what follows the last line feed is a line only if it is not empty.
-/

namespace ImportWeb.Text

/-- A finished line, read backwards: its ending's carriage return is dropped. -/
def closeLine : List Char → List Char
  | '\r' :: line => line.reverse
  | line => line.reverse

/-- The lines of a text whose first line begins with `line`, read backwards, after the
lines `done`, last first. -/
def linesFrom (done : List (List Char)) (line : List Char) : List Char → List (List Char)
  | [] => (if line.isEmpty then done else line.reverse :: done).reverse
  | c :: rest =>
    if c = '\n' then linesFrom (closeLine line :: done) [] rest
    else linesFrom done (c :: line) rest

def lines (s : List Char) : List (List Char) := linesFrom [] [] s

@[simp] theorem lines_nil : lines [] = [] := rfl

theorem linesFrom_done (done : List (List Char)) (line s : List Char) :
    linesFrom done line s = done.reverse ++ linesFrom [] line s := by
  induction s generalizing done line with
  | nil => by_cases h : line.isEmpty <;> simp [linesFrom, h]
  | cons c rest ih =>
    by_cases h : c = '\n'
    · simp only [linesFrom, h, if_true]
      rw [ih (closeLine line :: done), ih [closeLine line]]
      simp
    · simp only [linesFrom, h, if_false]
      exact ih done (c :: line)

/-- The text of the given lines, each with a line feed. -/
def unlines (l : List String) : String := String.join (l.map (· ++ "\n"))

end ImportWeb.Text
