import ImportWeb.Command.Ending
import ImportWeb.Proofs.Command.Words
import ImportWeb.Proofs.Disk.Writing
import ImportWeb.Proofs.Survey.Wanted

/-!
All or nothing. A line that asks for a graph fails without a trace, prints the graph's text and
leaves the disk alone, or writes the same text to one file and prints nothing. All other lines
leave the disk alone.
-/

namespace ImportWeb

/-- The languages of a request cannot be had, or its root cannot be surveyed for them. -/
def Request.Fails (r : Request) (disk : Disk) : Prop :=
  (∃ e, r.registry disk = .error e) ∨
    ∃ registry e, r.registry disk = .ok registry ∧
      disk.survey r.root registry.extensions (r.settings disk).exclusions = .error e

namespace Command

namespace Ending

variable {disk : Disk} {words : List String} {nanoseconds : Nat} {r : Request} {format : Format}
  {destination : Destination}

/-- A run that fails prints nothing and leaves the disk as it was. -/
structure Fails (disk : Disk) (e : Ending) : Prop where
  code_eq : e.code = 1
  output_eq : e.output = ""
  disk_eq : e.disk = disk

end Ending

end Command

end ImportWeb
