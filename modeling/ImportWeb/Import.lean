import ImportWeb.Disk
import ImportWeb.Layout

/-!
What a module token stands for: a file that is there, or a module from elsewhere, which keeps
the token as its name.
-/

namespace ImportWeb

inductive Import (P : Type := Path) where
  | file (path : P)
  | external (token : String)
  deriving DecidableEq, Repr

/-- Looks for the candidate of a token on disk. -/
def Layout.resolve (layout : Layout) (disk : Disk) (source : Path) (token : String) : Import :=
  match layout.candidate? source token with
  | some path => if disk.isFile path then .file path else .external (Text.trimmed token)
  | none => .external (Text.trimmed token)

end ImportWeb
