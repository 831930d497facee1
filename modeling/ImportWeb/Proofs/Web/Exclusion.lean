import ImportWeb.Proofs.Survey.Files
import ImportWeb.Proofs.Web.Cut

/-!
Files left out by more patterns. Patterns act on their own, and what is on disk stays, so the web
of a run with more exclude patterns is the web of the run without them, less the files that they
leave out. A pattern that is not right leaves out nothing.
-/

namespace ImportWeb

namespace Disk

variable {disk : Disk}

/-- More patterns leave what is left when the files that they leave out are not kept. -/
theorem isCut_web_append (h : disk.IsTree) (registry : Registry) (includeExternal : Bool)
    (exclude more : List String) (root : Path) :
    SameOutcome (fun w' w => w'.graph.IsCut (fun key => ! Survey.excludes more key) w.graph)
      (disk.web registry includeExternal (exclude ++ more) root)
      (disk.web registry includeExternal exclude root) := by
  rw [web_eq, web_eq]
  refine SameOutcome.map fun l hl => ?_
  have hfiles := Survey.files_append h (h.isName_of_rootOf hl) registry.extensions exclude more
  rw [Web.ofSurvey, hfiles]
  exact Web.isCut_ofFiles ..

/-- Three files that import each other in a circle, and modules from elsewhere. -/
def circle : Disk :=
  ⟨[(["p".toList], .directory),
    (["p".toList, "a.py".toList], .file "import b, os".toUTF8),
    (["p".toList, "b.py".toList], .file "import c\nimport sys".toUTF8),
    (["p".toList, "c.py".toList], .file "import a, os".toUTF8)], []⟩

/-- What a run finds without patterns. -/
def circleWeb : Web :=
  .ofSurvey circle .builtin true (.ofDirectory circle ["p".toList] Registry.builtin.extensions [])

theorem web_circle : circle.web .builtin true [] (.ofString "/p") = .ok circleWeb := by
  have hroot : circle.rootOf (.ofString "/p") = .ok ["p".toList] := rfl
  rw [web_eq, hroot]
  rfl

theorem arcs_circleWeb : circleWeb.graph.arcs.map Arc.ends =
    [(.file "b.py", .file "a.py"), (.external "os", .file "a.py"), (.file "c.py", .file "b.py"),
      (.external "sys", .file "b.py"), (.file "a.py", .file "c.py"),
      (.external "os", .file "c.py")] := by
  rw [circleWeb, Web.ofSurvey, Survey.ofDirectory, Survey.wanted_eq,
    List.mergeSort_of_pairwise (by decide +kernel)]
  decide +kernel

/-- The first pattern is not right, and the second one leaves out `b.py`. -/
theorem isCut_web_circle :
    circle.IsTree ∧ ∃ w', circle.web .builtin true ([] ++ ["[", "b.*"]) (.ofString "/p") = .ok w' ∧
      w'.graph.IsCut (fun key => ! Survey.excludes ["[", "b.*"] key) circleWeb.graph ∧
      w'.graph.arcs.map Arc.ends = [(.external "os", .file "a.py"), (.file "a.py", .file "c.py"),
        (.external "os", .file "c.py")] := by
  have htree : circle.IsTree := ⟨by decide, by decide⟩
  have hcut := isCut_web_append htree .builtin true [] ["[", "b.*"] (.ofString "/p")
  rw [web_circle] at hcut
  generalize circle.web .builtin true ([] ++ ["[", "b.*"]) (.ofString "/p") = x at hcut ⊢
  cases hcut with
  | @ok w' _ h =>
    refine ⟨htree, w', rfl, h, ?_⟩
    have harcs : w'.graph.arcs.map Arc.ends = (circleWeb.graph.arcs.map Arc.ends).filter
        (Key.areKept fun key => ! Survey.excludes ["[", "b.*"] key) := by
      rw [h.arcs, List.filter_map]
      rfl
    rw [harcs, arcs_circleWeb]
    decide +kernel

end Disk

end ImportWeb
