import Mathlib.Data.List.Forall2
import ImportWeb.Web

/-!
Line endings. A text without carriage returns has the same lines with a carriage return before
each of its line feeds, so the files are the same that a run gets to see, and so is the web.
-/

namespace ImportWeb

namespace Text

variable {c : Char} {line s : List Char}

/-- The text with a carriage return before each line feed. -/
def withReturns (s : List Char) : List Char :=
  s.flatMap fun c => if c = '\n' then ['\r', '\n'] else [c]

theorem withReturns_cons_of_ne (h : c ≠ '\n') (s : List Char) :
    withReturns (c :: s) = c :: withReturns s := by
  rw [withReturns, List.flatMap_cons, if_neg h]
  rfl

theorem withReturns_newline (s : List Char) :
    withReturns ('\n' :: s) = '\r' :: '\n' :: withReturns s := rfl

theorem linesFrom_cons_of_ne (h : c ≠ '\n') (line s : List Char) :
    linesFrom [] line (c :: s) = linesFrom [] (c :: line) s := by rw [linesFrom, if_neg h]

theorem linesFrom_newline (line s : List Char) :
    linesFrom [] line ('\n' :: s) = closeLine line :: lines s := by
  rw [linesFrom, if_pos rfl, linesFrom_done]
  rfl

/-- A carriage return at the end of a line does not count, unless there is another one. -/
theorem closeLine_return (h : '\r' ∉ line) : closeLine ('\r' :: line) = closeLine line := by
  cases line with
  | nil => rfl
  | cons c line =>
    have hc : c ≠ '\r' := (List.ne_of_not_mem_cons h).symm
    have hself : closeLine (c :: line) = (c :: line).reverse := by
      rw [closeLine]
      rintro _ heq
      exact hc (List.cons.inj heq).1
    rw [hself, closeLine]

theorem linesFrom_withReturns (hline : '\r' ∉ line) (hs : '\r' ∉ s) :
    linesFrom [] line (withReturns s) = linesFrom [] line s := by
  induction s generalizing line with
  | nil => rfl
  | cons c rest ih =>
    rw [List.mem_cons, not_or] at hs
    by_cases hc : c = '\n'
    · subst hc
      have hrest : lines (withReturns rest) = lines rest := ih List.not_mem_nil hs.2
      rw [withReturns_newline, linesFrom_cons_of_ne (by decide), linesFrom_newline,
        closeLine_return hline, hrest, linesFrom_newline]
    · rw [withReturns_cons_of_ne hc, linesFrom_cons_of_ne hc, linesFrom_cons_of_ne hc]
      exact ih (by simp [hs.1, hline]) hs.2

/-- Carriage returns before the line feeds change no line. -/
theorem lines_withReturns (h : '\r' ∉ s) : lines (withReturns s) = lines s :=
  linesFrom_withReturns List.not_mem_nil h

/-- Every line feed ends a line, and so does the end of the text, unless nothing is before it. -/
theorem length_linesFrom (line s : List Char) :
    (linesFrom [] line s).length =
      s.count '\n' + if s = [] ∧ line = [] ∨ s.getLast? = some '\n' then 0 else 1 := by
  induction s generalizing line with
  | nil => by_cases hline : line = [] <;> simp [linesFrom, hline]
  | cons c rest ih =>
    by_cases hc : c = '\n'
    · subst hc
      rw [linesFrom_newline, List.length_cons, lines, ih, List.count_cons_self]
      cases rest with
      | nil => simp
      | cons d rest => simp [List.getLast?_cons_cons, Nat.add_right_comm]
    · rw [linesFrom_cons_of_ne hc, ih, List.count_cons_of_ne hc]
      cases rest with
      | nil => simp [hc]
      | cons d rest => simp [List.getLast?_cons_cons]

/-- Every line feed ends a line, and what follows the last one is a line if it is not empty. -/
theorem length_lines (s : List Char) :
    (lines s).length = s.count '\n' + if s = [] ∨ s.getLast? = some '\n' then 0 else 1 := by
  rw [lines, length_linesFrom]
  simp only [and_true]

end Text

namespace Source

open Text

/-- The first text, or if it has no carriage returns, that text with one before each line feed. -/
def SameButEndings (t t' : String) : Prop :=
  t' = t ∨ '\r' ∉ t.toList ∧ t' = String.ofList (withReturns t.toList)

instance (t t' : String) : Decidable (SameButEndings t t') := inferInstanceAs (Decidable (_ ∨ _))

theorem ofText_withReturns (path : Path) {t : String} (h : '\r' ∉ t.toList) :
    ofText path (String.ofList (withReturns t.toList)) = ofText path t := by
  rw [ofText, ofText, String.toList_ofList, lines_withReturns h]

theorem ofText_congr (path : Path) {t t' : String} (h : SameButEndings t t') :
    ofText path t' = ofText path t := by
  rcases h with rfl | ⟨hno, rfl⟩
  · rfl
  · exact ofText_withReturns path hno

theorem lineCount_ofText (path : Path) (t : String) :
    (ofText path t).lineCount =
      t.toList.count '\n' + if t = "" ∨ t.toList.getLast? = some '\n' then 0 else 1 := by
  have hempty : t.toList = [] ↔ t = "" := String.toList_eq_nil_iff
  rw [lineCount, ofText, List.length_map, length_lines]
  simp only [hempty]

end Source

namespace Web

open Text Source

/-- Line endings do not change a web. A text has the same lines with either kind of ending, as many
as it has line feeds and one more for what follows the last one, and a run on texts that differ
in their endings makes the same web. -/
theorem ofFiles_endings (disk : Disk) (registry : Registry) (includeExternal : Bool) (root : Path) :
    (∀ path t, '\r' ∉ t.toList →
      (ofText path (String.ofList (withReturns t.toList))).lines = (ofText path t).lines ∧
      (ofText path t).lineCount =
        t.toList.count '\n' + if t = "" ∨ t.toList.getLast? = some '\n' then 0 else 1) ∧
    ∀ texts texts' : List (Path × String),
      List.Forall₂ (fun f f' => f'.1 = f.1 ∧ SameButEndings f.2 f'.2) texts texts' →
      ofFiles disk registry includeExternal root (texts'.map fun f => ofText f.1 f.2) =
        ofFiles disk registry includeExternal root (texts.map fun f => ofText f.1 f.2) := by
  refine ⟨fun path t h => ⟨?lines, lineCount_ofText path t⟩, fun texts texts' h => ?web⟩
  case lines => rw [ofText_withReturns path h]
  case web =>
    have hfiles : texts'.map (fun f => ofText f.1 f.2) = texts.map fun f => ofText f.1 f.2 := by
      induction h with
      | nil => rfl
      | cons hf _ ih => rw [List.map_cons, List.map_cons, ih, hf.1, ofText_congr _ hf.2]
    rw [hfiles]

/-- A text with an empty line whose endings change, and one that keeps its own carriage return. -/
theorem ofFiles_endings_mixed :
    let a := Path.ofString "/p/a.py"
    let b := Path.ofString "/p/b.py"
    let t := "import b\n\nfrom . import c"
    let t' := "import b\r\n\r\nfrom . import c"
    let web texts := ofFiles (Disk.empty []) .builtin true (.ofString "/p")
      (texts.map fun f : Path × String => ofText f.1 f.2)
    web [(a, t'), (b, "x\ry\r\n")] = web [(a, t), (b, "x\ry\r\n")] ∧
      (ofText a t').lines = (ofText a t).lines ∧ (ofText a t').lineCount = 3 := by
  intro a b t t' web
  have hno : '\r' ∉ t.toList := by decide
  have ht' : t' = String.ofList (withReturns t.toList) := by decide
  obtain ⟨hlines, hweb⟩ := ofFiles_endings (Disk.empty []) .builtin true (.ofString "/p")
  refine ⟨hweb _ _ (.cons ⟨rfl, .inr ⟨hno, ht'⟩⟩ (.cons ⟨rfl, .inl rfl⟩ .nil)), ?_⟩
  obtain ⟨hsame, hcount⟩ := hlines a t hno
  rw [← ht'] at hsame
  refine ⟨hsame, ?_⟩
  rw [lineCount, hsame]
  exact hcount.trans (by decide)

end Web

end ImportWeb
