import ImportWeb.Command.Help
import ImportWeb.Command.Run

/-!
How a run of the program ends, from the words on its command line: its exit code, what it prints,
and what is on disk afterwards.
-/

namespace ImportWeb.Command

structure Ending where
  code : Nat
  output : String
  errors : String
  disk : Disk

namespace Ending

/-- The end of a line that leads to no command. -/
def ofStop (disk : Disk) (s : Stop) : Ending := ⟨s.code, s.output, s.message, disk⟩

/-- The end of a command that was carried out on a disk. -/
def ofResult (disk : Disk) : Except Failure Outcome → Ending
  | .error failure => ⟨1, "", failure.message ++ "\n", disk⟩
  | .ok outcome => ⟨0, outcome.output, outcome.warning.elim "" (· ++ "\n"), outcome.disk⟩

/-- The end of a run with the words of a line, which takes the given time. -/
def ofLine (disk : Disk) (nanoseconds : Nat) (words : List String) : Ending :=
  match parse words with
  | .error stop => ofStop disk stop
  | .ok i => ofResult disk (i.command.run disk nanoseconds)

end Ending

end ImportWeb.Command
