import ImportWeb.Command.Log
import ImportWeb.Proofs.Command.Ending

/-!
Which of its messages a run shows. The program's own filters have one level for all of its parts,
and all that it has to tell is information: a quiet run shows none of it, a verbose one shows
everything, and the environment decides only where neither is asked for. A graph is reported as
written just when the run has written it.
-/

namespace ImportWeb

namespace LogFilter

variable {e : LogEvent}

theorem shows_program_iff {level : LogLevel} :
    shows (program level) e = true ↔
      programName <+: e.target.toList ∧ e.level.rank ≤ level.rank := by
  have hcovers : covers e.target.toList ⟨some programName, none, level⟩ =
      programName.isPrefixOf e.target.toList := Bool.true_and _
  rw [← List.isPrefixOf_iff_prefix, shows, program, List.find?_cons, hcovers]
  cases programName.isPrefixOf e.target.toList <;> simp

end LogFilter

/-- Something that the program itself tells, and no more than information. -/
def LogEvent.IsNews (e : LogEvent) : Prop :=
  LogFilter.programName <+: e.target.toList ∧ e.level = .info

namespace LogEvent.IsNews

variable {e : LogEvent}

/-- A program filter shows news from the level of information on. -/
theorem shows_program (h : e.IsNews) (level : LogLevel) :
    LogFilter.shows (LogFilter.program level) e = decide (LogLevel.info.rank ≤ level.rank) := by
  rw [Bool.eq_iff_iff, LogFilter.shows_program_iff, h.2, decide_eq_true_iff]
  exact and_iff_right h.1

end LogEvent.IsNews

namespace Command

variable {disk : Disk} {c : Command} {r : Request} {format : Format} {path : Option Path}

theorem isNews_scanned (s : Survey) : (scanned s).IsNews :=
  ⟨show LogFilter.programName <+: "codeweb::builder".toList by decide, rfl⟩

theorem isNews_written (target : Path) (g : Graph) : (written target g).IsNews :=
  ⟨show LogFilter.programName <+: "codeweb".toList by decide, rfl⟩

theorem isNews_of_mem_scanEvents {e : LogEvent} (h : e ∈ scanEvents r disk) : e.IsNews := by
  obtain ⟨survey, -, rfl⟩ := Option.map_eq_some_iff.1 (Option.mem_toList.1 h)
  exact isNews_scanned survey

theorem isNews_of_mem_writeEvents {e : LogEvent} (h : e ∈ writeEvents r disk format path) :
    e.IsNews := by
  unfold writeEvents at h
  split at h
  · cases h
  · split at h
    · cases h
    · obtain rfl := List.mem_singleton.1 h
      exact isNews_written _ _

theorem isNews_of_mem_events {e : LogEvent} (h : e ∈ c.events disk) : e.IsNews := by
  cases c with
  | graph r format destination =>
    cases destination with
    | standardOutput => exact isNews_of_mem_scanEvents h
    | file path =>
      rcases List.mem_append.1 h with h | h
      · exact isNews_of_mem_scanEvents h
      · exact isNews_of_mem_writeEvents h
  | stats r json => exact isNews_of_mem_scanEvents h
  | styles root => cases h

/-- A run tells of a scan just when its project can be scanned. -/
theorem scanEvents_eq_nil_iff : scanEvents r disk = [] ↔ r.Fails disk := by
  unfold scanEvents Request.survey? Request.Fails
  cases hregistry : r.registry disk with
  | error e => simp
  | ok registry =>
    cases hsurvey : disk.survey r.root registry.extensions (r.settings disk).exclusions with
    | error e => simp [hsurvey, Except.toOption]
    | ok survey => simp [hsurvey, Except.toOption]

theorem written_not_mem_scanEvents (target : Path) (g : Graph) :
    written target g ∉ scanEvents r disk := by
  intro h
  obtain ⟨survey, -, hsame⟩ := Option.map_eq_some_iff.1 (Option.mem_toList.1 h)
  have htarget : "codeweb::builder" = "codeweb" := congrArg LogEvent.target hsame
  exact absurd htarget (by decide)

/-- A run that is to write a graph tells of it just when it succeeds. -/
theorem exists_written_iff (disk : Disk) (r : Request) (format : Format) (path : Option Path)
    (nanoseconds : Nat) :
    (∃ g, written (targetOf format path) g ∈ (graph r format (.file path)).events disk) ↔
      ∃ outcome, (graph r format (.file path)).run disk nanoseconds = .ok outcome := by
  have hmem : ∀ g, written (targetOf format path) g ∈ (graph r format (.file path)).events disk ↔
      written (targetOf format path) g ∈ writeEvents r disk format path := fun g =>
    List.mem_append.trans (or_iff_right (written_not_mem_scanEvents _ g))
  rw [exists_congr hmem, writeEvents, run]
  cases r.web disk with
  | error e =>
    constructor
    · rintro ⟨g, hg⟩
      exact absurd hg List.not_mem_nil
    · rintro ⟨outcome, houtcome⟩
      cases houtcome
  | ok web =>
    have hrun : (Except.mapError Failure.request (.ok web) >>= fun web =>
        deliver disk format (r.render disk format web) (.file path)) =
          deliver disk format (r.render disk format web) (.file path) := rfl
    rw [hrun]
    dsimp only
    cases deliver disk format (r.render disk format web) (.file path) with
    | error e =>
      constructor
      · rintro ⟨g, hg⟩
        exact absurd hg List.not_mem_nil
      · rintro ⟨outcome, houtcome⟩
        cases houtcome
    | ok outcome => exact iff_of_true ⟨web.graph, List.mem_singleton.2 rfl⟩ ⟨outcome, rfl⟩

end Command

namespace Invocation

variable {i : Invocation} {disk : Disk}

/-- Of a run without flags everything is shown if the environment does not ask for less. -/
theorem shown_eq (i : Invocation) (environment : Option String) (disk : Disk) :
    i.shown environment disk =
      if i.verbose then i.command.events disk
      else if i.quiet then []
      else match environment.bind fun s => LogFilter.ofText? s.toList with
        | some filter => (i.command.events disk).filter (LogFilter.shows filter)
        | none => i.command.events disk := by
  have hprogram : ∀ level, (i.command.events disk).filter
      (LogFilter.shows (LogFilter.program level)) =
        if LogLevel.info.rank ≤ level.rank then i.command.events disk else [] := by
    intro level
    rw [List.filter_congr fun e he => (Command.isNews_of_mem_events he).shows_program level]
    split
    case isTrue h => simp [h]
    case isFalse h => simp [h]
  rw [shown, LogFilter.choose]
  cases i.verbose with
  | true => exact hprogram .debug
  | false =>
    cases i.quiet with
    | true => exact hprogram .error
    | false =>
      cases environment.bind fun s => LogFilter.ofText? s.toList with
      | some filter => rfl
      | none => exact hprogram .info

/-- What the environment asks for makes no difference beside a flag. -/
example : (LogFilter.choose true true (some "off")).map Directive.text =
    ["codeweb=debug".toList] := by decide

end Invocation

end ImportWeb
