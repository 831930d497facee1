import ImportWeb.Proofs.Survey.Wanted
import ImportWeb.Proofs.Toml.Element
import ImportWeb.Settings

/-!
The relative marker of a style of a project. It is one character or it is missing. An empty text
is no character, so a file that gives one as a marker counts for nothing.
-/

namespace ImportWeb

open Toml (EndsInElement Fields Item Reading Value lineEnd? line? skipSpace fieldsToValues
  tablesToValues)
open Toml.Fields (item?)

variable {comment after rest : List Char}

/-! ### The line of an empty marker -/

/-- An empty relative marker. -/
def emptyMarker : List Char := "relative_marker = \"\"".toList

/-- The line that gives an empty relative marker, with what follows it on the line. -/
def markerLine (comment : List Char) : List Char := emptyMarker ++ comment ++ ['\n']

theorem key?_emptyMarker (rest : List Char) :
    Toml.key? (emptyMarker ++ rest) =
      some (["relative_marker"], '=' :: ' ' :: '"' :: '"' :: rest) := rfl

theorem keyValue?_emptyMarker (hend : lineEnd? rest = some after) (reading : Reading) :
    Toml.keyValue? reading (emptyMarker ++ rest) =
      (reading.document.within false (·.addValue ["relative_marker"] (.string "")) reading.path).map
        fun document => (⟨document, reading.path⟩, after) := by
  have hvalue (fuel : Nat) : Toml.value? (fuel + 1) 0 (skipSpace (' ' :: '"' :: '"' :: rest)) =
      some (.string "", rest) := Toml.value?_empty (Toml.head?_ne_quote hend) fuel 0
  rw [Toml.keyValue?, key?_emptyMarker]
  show (Toml.value? _ 0 (skipSpace (' ' :: '"' :: '"' :: rest)) >>= _) = _
  rw [hvalue, Option.bind_eq_bind, Option.bind_some]
  dsimp only
  rw [hend]
  cases reading.document.within false (·.addValue ["relative_marker"] (.string "")) reading.path <;>
    rfl

theorem line?_markerLine (hcomment : lineEnd? (comment ++ ['\n']) = some []) (after : List Char)
    (reading : Reading) : line? reading (markerLine comment ++ after) =
      (reading.document.within false (·.addValue ["relative_marker"] (.string "")) reading.path).map
        fun document => (⟨document, reading.path⟩, after) := by
  have happend (text : List Char) :
      text ++ comment ++ ['\n'] ++ after = text ++ (comment ++ '\n' :: after) := by simp
  have hcons : emptyMarker ++ (comment ++ '\n' :: after) =
      'r' :: (emptyMarker.tail ++ (comment ++ '\n' :: after)) := rfl
  rw [markerLine, happend, hcons, Toml.line?_of_not (by decide), ← hcons]
  exact keyValue?_emptyMarker (Toml.lineEnd?_append hcomment after) reading

theorem skipSpace_markerLine (comment after : List Char) :
    skipSpace (markerLine comment ++ after) ≠ [] := by
  have hcons : markerLine comment ++ after =
      'r' :: (emptyMarker.tail ++ comment ++ ['\n'] ++ after) := rfl
  have hskip (rest : List Char) : skipSpace ('r' :: rest) = 'r' :: rest := rfl
  rw [hcons, hskip]
  exact List.cons_ne_nil _ _

/-! ### Decoding -/

theorem record?_fieldsToValues (names : List String) (fields : Fields) :
    Value.record? names (.table (fieldsToValues fields)) =
      some (names.map fun name => (item? name fields).map Item.toValue) := by
  rw [Value.record?]
  congr 1
  refine List.map_congr_left fun name _ => ?_
  exact Toml.find?_fieldsToValues name fields

theorem StyleEntry.ofToml?_eq_none {fields : Fields}
    (h : item? "relative_marker" fields = some (.value (.string ""))) :
    StyleEntry.ofToml? (.table (fieldsToValues fields)) = none := by
  refine Option.eq_none_iff_forall_ne_some.2 fun e he => ?_
  rw [StyleEntry.ofToml?, record?_fieldsToValues] at he
  obtain ⟨_, hrecord, he⟩ := Option.bind_eq_some_iff.1 he
  cases hrecord
  split at he
  case h_1 language name extensions pattern separator marker extension index hfields =>
    have hmarker : marker = some (.string "") := by
      simp only [List.map_cons, List.cons.injEq, h] at hfields
      exact hfields.2.2.2.2.2.1.symm
    obtain ⟨_, -, he⟩ := Option.bind_eq_some_iff.1 he
    obtain ⟨_, -, he⟩ := Option.bind_eq_some_iff.1 he
    obtain ⟨_, -, he⟩ := Option.bind_eq_some_iff.1 he
    obtain ⟨_, -, he⟩ := Option.bind_eq_some_iff.1 he
    obtain ⟨_, -, he⟩ := Option.bind_eq_some_iff.1 he
    obtain ⟨_, hread, -⟩ := Option.bind_eq_some_iff.1 he
    rw [hmarker] at hread
    cases hread
  case h_2 => cases he

theorem forall₂_of_mapM {α β : Type} {f : α → Option β} {as : List α} {bs : List β}
    (h : as.mapM f = some bs) : List.Forall₂ (fun a b => f a = some b) as bs := by
  induction as generalizing bs with
  | nil =>
    cases h
    exact .nil
  | cons a as ih =>
    rw [List.mapM_cons] at h
    obtain ⟨b, hb, h⟩ := Option.bind_eq_some_iff.1 h
    obtain ⟨bs, hbs, heq⟩ := Option.bind_eq_some_iff.1 h
    cases heq
    exact .cons hb (ih hbs)

namespace Settings

/-- The elements of the array of tables `styles` are the styles, one by one. -/
theorem styles_of_ofToml? {fields : Fields} {ts : List Fields} {s : Settings}
    (hts : item? "styles" fields = some (.tables ts))
    (h : ofToml? (.table (fieldsToValues fields)) = some s) :
    List.Forall₂ (fun element e => StyleEntry.ofToml? (.table (fieldsToValues element)) = some e)
      ts s.styles := by
  rw [ofToml?, record?_fieldsToValues] at h
  obtain ⟨_, hrecord, h⟩ := Option.bind_eq_some_iff.1 h
  cases hrecord
  obtain ⟨html, -, h⟩ := Option.bind_eq_some_iff.1 h
  obtain ⟨styles, hstyles, h⟩ := Option.bind_eq_some_iff.1 h
  obtain ⟨exclude, -, h⟩ := Option.bind_eq_some_iff.1 h
  obtain ⟨includeExternal, -, h⟩ := Option.bind_eq_some_iff.1 h
  obtain ⟨languages, -, h⟩ := Option.bind_eq_some_iff.1 h
  cases h
  dsimp only at hstyles
  rw [hts] at hstyles
  obtain ⟨entries, hentries, rfl⟩ := Option.map_eq_some_iff.1 hstyles
  change (tablesToValues ts).mapM StyleEntry.ofToml? = some entries at hentries
  rw [Toml.tablesToValues_eq] at hentries
  exact List.forall₂_map_left_iff.1 (forall₂_of_mapM hentries)

variable {before : List Char} {s : Settings}

theorem styles_ne_nil (hentry : EndsInElement "styles" before)
    (hs : ofText? (String.ofList (before ++ after)) = some s) : s.styles ≠ [] := by
  rw [ofText?, String.toList_ofList] at hs
  obtain ⟨v, hparse, hs⟩ := Option.bind_eq_some_iff.1 hs
  obtain ⟨t, ts, rfl, hts, hne⟩ := hentry.exists_tables hparse
  have hstyles := styles_of_ofToml? hts hs
  intro hnil
  rw [hnil] at hstyles
  exact hne (List.forall₂_nil_right_iff.1 hstyles)

theorem ofText?_markerLine (hentry : EndsInElement "styles" before)
    (hcomment : lineEnd? (comment ++ ['\n']) = some []) (after : List Char) :
    ofText? (String.ofList (before ++ markerLine comment ++ after)) = none := by
  refine Option.eq_none_iff_forall_ne_some.2 fun s hs => ?_
  rw [ofText?, String.toList_ofList, List.append_assoc] at hs
  obtain ⟨v, hparse, hs⟩ := Option.bind_eq_some_iff.1 hs
  obtain ⟨t, ts, element, rfl, hts, helement, hmarker⟩ := hentry.exists_element
    (skipSpace_markerLine comment after) (line?_markerLine hcomment after) hparse
  have hstyles := styles_of_ofToml? hts hs
  obtain ⟨i, hi, rfl⟩ := List.getElem_of_mem helement
  have hstyle := hstyles.get hi (hstyles.length_eq ▸ hi)
  rw [List.get_eq_getElem, StyleEntry.ofToml?_eq_none hmarker] at hstyle
  cases hstyle

/-- An empty relative marker, on a line of its own anywhere in an entry of `styles` and with or
without a comment, makes the whole file count for nothing. What the file says is lost, and it always
says something: it has that style. -/
theorem load_emptyMarker {disk disk' : Disk} {root : Path}
    (hentry : EndsInElement "styles" before) (hcomment : lineEnd? (comment ++ ['\n']) = some [])
    (htext : disk.text? (root.push fileName.toList) = some (String.ofList (before ++ after)))
    (hs : ofText? (String.ofList (before ++ after)) = some s)
    (htext' : disk'.text? (root.push fileName.toList) =
      some (String.ofList (before ++ markerLine comment ++ after))) :
    load disk root = s ∧ load disk' root = default ∧ s.styles ≠ [] ∧
      load disk' root ≠ load disk root := by
  have hload : load disk root = s := by rw [load, htext, Option.bind_some, hs, Option.getD_some]
  have hload' : load disk' root = default := by
    rw [load, htext', Option.bind_some, ofText?_markerLine hentry hcomment, Option.getD_none]
  have hstyles := styles_ne_nil hentry hs
  refine ⟨hload, hload', hstyles, ?_⟩
  rw [hload, hload']
  rintro rfl
  exact hstyles rfl

/-! ### The documented example -/

/-- The characters of some lines. -/
def textOf (lines : List String) : List Char := lines.flatMap fun line => line.toList ++ ['\n']

/-- The documented example of a file, up to the relative marker of its style. -/
def exampleStart : List Char := textOf [
  "exclude = [\"build/*\", \"*_pb2.py\"]   # glob patterns (glob crate)",
  "include_external = true             # default false",
  "languages = [\"python\", \"c\"]         # active rule-sets; default: all built-ins",
  "[html]",
  "node_distance = 150",
  "[[styles]]                          # user-defined declarative rule-sets",
  "set = \"lua\"",
  "extensions = [\"lua\"]",
  "pattern = 'require\\s*\\(?\\s*\"(?P<module>[^\"]+)\"'",
  "separator = \".\""]

/-- What follows the relative marker on its line. -/
def exampleComment : List Char := "                 # optional".toList

def exampleEnd : List Char := textOf ["extension = \"lua\""]

/-- What the example says without its relative marker. -/
def exampleSettings : Settings where
  exclude := some ["build/*", "*_pb2.py"]
  includeExternal := some true
  languages := some ["python", "c"]
  html := { PhysicsOverrides.none with nodeDistance := some (.ofInt 150) }
  styles := [⟨"lua", none, ["lua"], "require\\s*\\(?\\s*\"(?P<module>[^\"]+)\"", ".", none,
    "lua", none⟩]

/-- A project in `/p` with such a file. -/
def exampleDisk (text : List Char) : Disk :=
  ⟨[([['p']], .directory), ([['p'], fileName.toList], .file (String.ofList text).toUTF8)], []⟩

theorem text?_exampleDisk (text : List Char) :
    (exampleDisk text).text? ((Path.ofString "/p").push fileName.toList) =
      some (String.ofList text) := by
  have hbytes : (exampleDisk text).bytes? ((Path.ofString "/p").push fileName.toList) =
      some (String.ofList text).toUTF8 := rfl
  rw [Disk.text?, hbytes, Option.bind_some]
  exact fromUTF8?_eq_some_iff.2 rfl

theorem endsInElement_exampleStart : EndsInElement "styles" exampleStart := by decide +kernel

theorem ofText?_example : ofText? (String.ofList (exampleStart ++ exampleEnd)) =
    some exampleSettings := by
  rw [ofText?, String.toList_ofList]
  decide +kernel

/-- The documented example has an empty marker with a comment behind it. -/
theorem load_emptyMarker_example :
    let root := Path.ofString "/p"
    let said := exampleDisk (exampleStart ++ markerLine exampleComment ++ exampleEnd)
    let unsaid := exampleDisk (exampleStart ++ exampleEnd)
    EndsInElement "styles" exampleStart ∧ lineEnd? (exampleComment ++ ['\n']) = some [] ∧
      load unsaid root = exampleSettings ∧ load said root = default ∧
      exampleSettings.styles ≠ [] ∧ load said root ≠ load unsaid root := by
  intro root said unsaid
  have hcomment : lineEnd? (exampleComment ++ ['\n']) = some [] := by decide +kernel
  exact ⟨endsInElement_exampleStart, hcomment, load_emptyMarker endsInElement_exampleStart hcomment
    (text?_exampleDisk _) ofText?_example (text?_exampleDisk _)⟩

/-- In the documented example, whose style has no relative marker apart from that line, the
line takes away the patterns, the languages, the distance and the style. -/
theorem emptyMarker_example_lost :
    let root := Path.ofString "/p"
    let said := exampleDisk (exampleStart ++ markerLine exampleComment ++ exampleEnd)
    let unsaid := exampleDisk (exampleStart ++ exampleEnd)
    ofText? (String.ofList (exampleStart ++ exampleEnd)) = some exampleSettings ∧
      exampleSettings.styles.map StyleEntry.relativeMarker = [none] ∧
      load unsaid root = exampleSettings ∧ load said root = ⟨none, none, none, .none, []⟩ ∧
      load said root ≠ load unsaid root := by
  intro root said unsaid
  have hcomment : lineEnd? (exampleComment ++ ['\n']) = some [] := by decide +kernel
  have hunsaid : load unsaid root = exampleSettings := by
    rw [load, text?_exampleDisk, Option.bind_some, ofText?_example, Option.getD_some]
  have hsaid : load said root = default := by
    rw [load, text?_exampleDisk, Option.bind_some,
      ofText?_markerLine endsInElement_exampleStart hcomment, Option.getD_none]
  refine ⟨ofText?_example, rfl, hunsaid, hsaid, ?_⟩
  rw [hunsaid, hsaid]
  decide

end Settings

end ImportWeb
