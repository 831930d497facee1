import ImportWeb.Proofs.Pattern.Captured
import ImportWeb.Proofs.Style.Anchor
import ImportWeb.Proofs.Text.Word

/-!
Capture styles. Such a style finds one module on a line, namely what its group captures without the
blanks around it, and none if the group takes no part in the match or captures blanks only.
-/

namespace ImportWeb

open Text Pattern

/-- There is nothing but blanks in a text. -/
def Text.AllBlank (text : List Char) : Prop := ∀ c ∈ text, isBlank c = true

instance (text : List Char) : Decidable (AllBlank text) :=
  decidable_of_iff (text.all isBlank = true) List.all_eq_true

namespace Style

variable {s : Style} {layout : Layout} {disk : Disk} {source : Path} {line : String}
  {text : List Char}

theorem importsOn_capture (hrule : s.rule = .capture layout) (disk : Disk) (source : Path)
    (line : String) : s.importsOn disk source line =
      (captureTokens s.pattern line.toList).map (layout.resolve disk source ∘ String.ofList) := by
  simp only [importsOn, tokens, Style.layout, hrule, List.map_map]

theorem captureTokens_of_captured {p : Pattern} {line : List Char}
    (h : p.captured? line = some text) :
    captureTokens p line = if AllBlank text then [] else [trim text] := by
  have hblank : AllBlank text ↔ trim text = [] := trim_eq_nil_iff.symm
  rw [captureTokens, h, Option.map_some, Option.toList_some]
  by_cases hnil : trim text = []
  · rw [if_pos (hblank.2 hnil), hnil]
    rfl
  · rw [if_neg (mt hblank.1 hnil), List.filter_cons_of_pos (by simpa using hnil), List.filter_nil]

/-- What is captured and not blank is the module of the line. -/
theorem importsOn_of_captured (hrule : s.rule = .capture layout)
    (hcaptured : s.pattern.captured? line.toList = some text) (hink : ¬ AllBlank text) :
    s.importsOn disk source line = [layout.resolve disk source (String.ofList (trim text))] := by
  rw [importsOn_capture hrule, captureTokens_of_captured hcaptured, if_neg hink]
  rfl

/-- Without a text that is captured and not blank there is no module. -/
theorem importsOn_of_not_captured (hrule : s.rule = .capture layout)
    (h : ∀ text, s.pattern.captured? line.toList = some text → AllBlank text) :
    s.importsOn disk source line = [] := by
  rw [importsOn_capture hrule]
  cases hcaptured : s.pattern.captured? line.toList with
  | none => simp [captureTokens, hcaptured]
  | some text => rw [captureTokens_of_captured hcaptured, if_pos (h text hcaptured), List.map_nil]

/-- A line without a match has no module. -/
theorem importsOn_of_not_isMatch (hrule : s.rule = .capture layout) (h : ¬ s.isMatch line = true) :
    s.importsOn disk source line = [] := by
  have hsearch : search s.pattern.program line.toList = none := by
    simpa [isMatch, Pattern.isMatch] using h
  refine importsOn_of_not_captured hrule fun text hcaptured => ?_
  simp [Pattern.captured?, hsearch] at hcaptured

/-- A pattern whose matches all have the group in them captures its text in one of them. -/
theorem exists_captured {p : Pattern} {e : Expr} {kind : List Char → List Char → List Char → Prop}
    (hp : p.program = e.anchored.program moduleGroup.toList)
    (he : e.Captures moduleGroup.toList kind) {line : List Char} (h : p.isMatch line = true) :
    ∃ before text behind rest, line = before ++ (text ++ (behind ++ rest)) ∧
      kind before text behind ∧ p.captured? line = some text := by
  obtain ⟨marks, hsearch⟩ := Option.isSome_iff_exists.1 h
  have hmatch := hsearch
  rw [hp] at hmatch
  obtain ⟨_, _, rfl, q, hmatch⟩ := exists_matches_of_search hmatch
  obtain ⟨rfl, hmatch⟩ := Expr.matches_anchored_iff.1 hmatch
  obtain ⟨before, text, behind, rest, rfl, hkind, -, rfl⟩ := (he _ _ _ _ _).1 hmatch
  refine ⟨before, text, behind, rest, rfl, hkind, ?_⟩
  rw [List.nil_append] at hsearch
  simp [Pattern.captured?, hsearch]

end Style

end ImportWeb
