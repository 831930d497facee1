import ImportWeb.Command.Parser

/-!
The one word that decides where a graph goes. A line that asks for a graph is read as one for the
standard output exactly if `--stdout` stands among its switches, which two dashes end.
-/

namespace ImportWeb

namespace Command

/-- The words of a line up to the two dashes that end the switches. -/
def switches (words : List String) : List String := words.takeWhile (· != "--")

namespace State

variable {l : Level} {s t : State} {word : String}

/-- Some flags are given, and the switches do not end. -/
structure Adds (s t : State) (flags : List Flag) : Prop where
  flags_eq : t.given.flags = s.given.flags ++ flags
  ended_eq : t.ended = s.ended

theorem Adds.trans {u : State} {flags more : List Flag} (h : s.Adds t flags) (h' : t.Adds u more) :
    s.Adds u (flags ++ more) :=
  ⟨by rw [h'.flags_eq, h.flags_eq, List.append_assoc], h'.ended_eq.trans h.ended_eq⟩

end State

end Command

end ImportWeb
