import Mathlib.Tactic.TypeStar
import ImportWeb.Web

/-!
How a run ends. Whether it fails is decided by its root alone, so two runs over one disk from one
root fail alike, or both find the files of the same directory.
-/

namespace ImportWeb

/-- Two runs fail alike, or both succeed with results in a relation. -/
inductive SameOutcome {ε α : Type*} (r : α → α → Prop) : Except ε α → Except ε α → Prop
  | ok {a b : α} (h : r a b) : SameOutcome r (.ok a) (.ok b)
  | error (e : ε) : SameOutcome r (.error e) (.error e)

theorem SameOutcome.map {ε α β : Type*} {r : β → β → Prop} {f g : α → β} {x : Except ε α}
    (h : ∀ a, x = .ok a → r (f a) (g a)) : SameOutcome r (x.map f) (x.map g) := by
  cases x with
  | error e => exact .error e
  | ok a => exact .ok (h a rfl)

/-- The survey of a directory. -/
def Survey.ofDirectory (disk : Disk) (l : Location) (extensions exclude : List String) : Survey :=
  ⟨l.toPath,
    (wanted disk l extensions exclude).filterMap fun f =>
      (String.fromUTF8? f.2).map (Source.ofText f.1.toPath),
    (wanted disk l extensions exclude).filterMap fun f =>
      if (String.fromUTF8? f.2).isNone then some f.1.toPath else none⟩

/-- The web of what a survey finds. -/
def Web.ofSurvey (disk : Disk) (registry : Registry) (includeExternal : Bool) (s : Survey) : Web :=
  { ofFiles disk registry includeExternal s.root s.files with tally.skipped := s.skipped.length }

namespace Disk

/-- The directory that the path of a root leads to. -/
def rootOf (disk : Disk) (root : Path) : Except SurveyError Location :=
  match disk.locate root with
  | .error _ => .error (.missingRoot root)
  | .ok l =>
    match disk.find? l with
    | some .directory => .ok l
    | _ => .error (.notADirectory root)

theorem find?_rootOf {disk : Disk} {root : Path} {l : Location} (h : disk.rootOf root = .ok l) :
    disk.find? l = some .directory := by
  unfold rootOf at h
  split at h
  · cases h
  · split at h
    case h_1 hfind =>
      cases h
      exact hfind
    case h_2 => cases h

theorem survey_eq (disk : Disk) (root : Path) (extensions exclude : List String) :
    disk.survey root extensions exclude =
      (disk.rootOf root).map fun l => Survey.ofDirectory disk l extensions exclude := by
  unfold survey rootOf
  cases disk.locate root with
  | error e => rfl
  | ok l =>
    dsimp only
    cases disk.find? l with
    | none => rfl
    | some entry => cases entry <;> rfl

theorem web_eq (disk : Disk) (registry : Registry) (includeExternal : Bool)
    (exclude : List String) (root : Path) :
    disk.web registry includeExternal exclude root = (disk.rootOf root).map fun l =>
      Web.ofSurvey disk registry includeExternal
        (Survey.ofDirectory disk l registry.extensions exclude) := by
  unfold web
  rw [survey_eq]
  cases disk.rootOf root <;> rfl

end Disk

end ImportWeb
