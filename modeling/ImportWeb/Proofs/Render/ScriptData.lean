import Mathlib.Data.List.Infix
import ImportWeb.Render.Page

/-!
How a browser reads the text of an inline script. Its tokenizer goes through the script data
states of the HTML standard: a comment mark in the text makes it escaped, and a script tag after
that makes it double escaped, in which a closing tag does not leave the script. Each state tells
what the text before it has to contain.
-/

namespace ImportWeb.Render.ScriptData

/-- The script data states. A tag's name is kept in small letters; it is empty as long as none of
its letters has been read. -/
inductive State where
  | data
  | lessThan
  | endTag (name : List Char)
  | escapeStart
  | escapeStartDash
  | escaped
  | escapedDash
  | escapedDashDash
  | escapedLessThan
  | escapedEndTag (name : List Char)
  | doubleEscapeStart (name : List Char)
  | doubled
  | doubledDash
  | doubledDashDash
  | doubledLessThan
  | doubleEscapeEnd (name : List Char)
  /-- The closing tag has been read. -/
  | left
  deriving DecidableEq, Repr

namespace State

def tagName : List Char := "script".toList

/-- What ends a tag's name. -/
def isDelimiter (c : Char) : Bool :=
  c = '\t' || c = '\n' || c = '\x0c' || c = ' ' || c = '/' || c = '>'

def fromData (c : Char) : State := if c = '<' then lessThan else data

def fromEscaped (c : Char) : State :=
  if c = '-' then escapedDash else if c = '<' then escapedLessThan else escaped

def fromDoubled (c : Char) : State :=
  if c = '-' then doubledDash else if c = '<' then doubledLessThan else doubled

/-- One character. -/
def step (st : State) (c : Char) : State :=
  match st with
  | data => fromData c
  | lessThan => if c = '/' then endTag [] else if c = '!' then escapeStart else fromData c
  | endTag name =>
    if isDelimiter c && name = tagName then left
    else if c.isAlpha then endTag (name ++ [c.toLower])
    else fromData c
  | escapeStart => if c = '-' then escapeStartDash else fromData c
  | escapeStartDash => if c = '-' then escapedDashDash else fromData c
  | escaped => fromEscaped c
  | escapedDash => if c = '-' then escapedDashDash else fromEscaped c
  | escapedDashDash =>
    if c = '-' then escapedDashDash else if c = '>' then data else fromEscaped c
  | escapedLessThan =>
    if c = '/' then escapedEndTag []
    else if c.isAlpha then doubleEscapeStart [c.toLower]
    else fromEscaped c
  | escapedEndTag name =>
    if isDelimiter c && name = tagName then left
    else if c.isAlpha then escapedEndTag (name ++ [c.toLower])
    else fromEscaped c
  | doubleEscapeStart name =>
    if isDelimiter c then (if name = tagName then doubled else escaped)
    else if c.isAlpha then doubleEscapeStart (name ++ [c.toLower])
    else fromEscaped c
  | doubled => fromDoubled c
  | doubledDash => if c = '-' then doubledDashDash else fromDoubled c
  | doubledDashDash =>
    if c = '-' then doubledDashDash else if c = '>' then data else fromDoubled c
  | doubledLessThan => if c = '/' then doubleEscapeEnd [] else fromDoubled c
  | doubleEscapeEnd name =>
    if isDelimiter c then (if name = tagName then escaped else doubled)
    else if c.isAlpha then doubleEscapeEnd (name ++ [c.toLower])
    else fromDoubled c
  | left => left

/-- The state after a text. -/
def run (st : State) (text : List Char) : State := text.foldl step st

theorem run_append (st : State) (s t : List Char) : run st (s ++ t) = run (run st s) t :=
  List.foldl_append

/-- A script is left once. -/
theorem run_left (text : List Char) : run left text = left := by
  induction text with
  | nil => rfl
  | cons c rest ih => exact ih

/-! ### What a state tells of the text before it -/

/-- The text has started a comment. -/
def Commented (text : List Char) : Prop := "<!--".toList <:+: text

/-- The text has a tag that is closed. -/
def Closed (text : List Char) : Prop := "</".toList <:+: text

/-- The text with small letters for capital ones. -/
def lower (text : List Char) : List Char := text.map Char.toLower

/-- The text has a script tag. -/
def Tagged (text : List Char) : Prop := "<script".toList <:+: lower text

/-- What has been read for a state to be reached. -/
def Reads (text : List Char) : State → Prop
  | data => True
  | lessThan => "<".toList <:+ text
  | endTag _ => Closed text
  | escapeStart => "<!".toList <:+ text
  | escapeStartDash => "<!-".toList <:+ text
  | escaped | escapedDash | escapedDashDash => Commented text
  | escapedLessThan => Commented text ∧ "<".toList <:+ text
  | escapedEndTag _ => Commented text ∧ Closed text
  | doubleEscapeStart name => Commented text ∧ '<' :: name <:+ lower text
  | doubled | doubledDash | doubledDashDash => Commented text ∧ Tagged text
  | doubledLessThan => Commented text ∧ Tagged text ∧ "<".toList <:+ text
  | doubleEscapeEnd _ => Commented text ∧ Tagged text ∧ Closed text
  | left => Closed text

variable {text : List Char} {c : Char}

theorem Commented.concat (h : Commented text) (c : Char) : Commented (text ++ [c]) :=
  h.trans (List.prefix_append text [c]).isInfix

theorem Closed.concat (h : Closed text) (c : Char) : Closed (text ++ [c]) :=
  h.trans (List.prefix_append text [c]).isInfix

theorem lower_concat (text : List Char) (c : Char) :
    lower (text ++ [c]) = lower text ++ [c.toLower] := List.map_append

theorem Tagged.concat (h : Tagged text) (c : Char) : Tagged (text ++ [c]) := by
  unfold Tagged
  rw [lower_concat]
  exact h.trans (List.prefix_append (lower text) [c.toLower]).isInfix

theorem suffix_concat {w : List Char} (h : w <:+ text) (c : Char) : w ++ [c] <:+ text ++ [c] := by
  obtain ⟨before, rfl⟩ := h
  exact ⟨before, (List.append_assoc _ _ _).symm⟩

theorem reads_fromData (text : List Char) (c : Char) : Reads (text ++ [c]) (fromData c) := by
  unfold fromData
  split
  case isTrue h => exact h ▸ List.suffix_append text ['<']
  case isFalse => trivial

theorem reads_fromEscaped (h : Commented text) (c : Char) :
    Reads (text ++ [c]) (fromEscaped c) := by
  unfold fromEscaped
  split
  · exact h.concat c
  · split
    case isTrue hc => exact ⟨h.concat c, hc ▸ List.suffix_append text ['<']⟩
    case isFalse => exact h.concat c

theorem reads_fromDoubled (h : Commented text) (ht : Tagged text) (c : Char) :
    Reads (text ++ [c]) (fromDoubled c) := by
  unfold fromDoubled
  split
  · exact ⟨h.concat c, ht.concat c⟩
  · split
    case isTrue hc => exact ⟨h.concat c, ht.concat c, hc ▸ List.suffix_append text ['<']⟩
    case isFalse => exact ⟨h.concat c, ht.concat c⟩

theorem closed_of_slash (h : "<".toList <:+ text) : Closed (text ++ ['/']) :=
  (suffix_concat h '/').isInfix

theorem reads_step_lessThan (h : "<".toList <:+ text) (c : Char) :
    Reads (text ++ [c]) (step lessThan c) := by
  rw [step]
  split_ifs with hslash hmark
  · subst hslash
    exact closed_of_slash h
  · subst hmark
    exact suffix_concat h '!'
  · exact reads_fromData text c

theorem reads_step_endTag (h : Closed text) (name : List Char) (c : Char) :
    Reads (text ++ [c]) (step (endTag name) c) := by
  rw [step]
  split_ifs
  · exact h.concat c
  · exact h.concat c
  · exact reads_fromData text c

/-- A letter after the less-than sign may be the first one of a script tag. -/
theorem reads_step_escapedLessThan (h : Commented text) (hless : "<".toList <:+ text) (c : Char) :
    Reads (text ++ [c]) (step escapedLessThan c) := by
  rw [step]
  split_ifs with hslash
  · subst hslash
    exact ⟨h.concat '/', closed_of_slash hless⟩
  · have hlower : "<".toList <:+ lower text := hless.map Char.toLower
    refine ⟨h.concat c, ?_⟩
    rw [lower_concat]
    exact suffix_concat hlower c.toLower
  · exact reads_fromEscaped h c

theorem reads_step_escapedEndTag (h : Commented text) (hclosed : Closed text) (name : List Char)
    (c : Char) : Reads (text ++ [c]) (step (escapedEndTag name) c) := by
  rw [step]
  split_ifs
  · exact hclosed.concat c
  · exact ⟨h.concat c, hclosed.concat c⟩
  · exact reads_fromEscaped h c

/-- What ends the name decides whether it was a script tag. -/
theorem reads_step_doubleEscapeStart {name : List Char} (h : Commented text)
    (hname : '<' :: name <:+ lower text) (c : Char) :
    Reads (text ++ [c]) (step (doubleEscapeStart name) c) := by
  rw [step]
  split_ifs with hdelimiter htag
  · subst htag
    exact ⟨h.concat c, Tagged.concat hname.isInfix c⟩
  · exact h.concat c
  · refine ⟨h.concat c, ?_⟩
    rw [lower_concat]
    exact suffix_concat hname c.toLower
  · exact reads_fromEscaped h c

theorem reads_step_doubledLessThan (h : Commented text) (htagged : Tagged text)
    (hless : "<".toList <:+ text) (c : Char) :
    Reads (text ++ [c]) (step doubledLessThan c) := by
  rw [step]
  split_ifs with hslash
  · subst hslash
    exact ⟨h.concat '/', htagged.concat '/', closed_of_slash hless⟩
  · exact reads_fromDoubled h htagged c

theorem reads_step_doubleEscapeEnd (h : Commented text) (htagged : Tagged text)
    (hclosed : Closed text) (name : List Char) (c : Char) :
    Reads (text ++ [c]) (step (doubleEscapeEnd name) c) := by
  rw [step]
  split_ifs
  · exact h.concat c
  · exact ⟨h.concat c, htagged.concat c⟩
  · exact ⟨h.concat c, htagged.concat c, hclosed.concat c⟩
  · exact reads_fromDoubled h htagged c

/-- A state's reading carries over to the next character. -/
theorem reads_step (st : State) (h : Reads text st) (c : Char) :
    Reads (text ++ [c]) (step st c) := by
  cases st with
  | data => exact reads_fromData text c
  | lessThan => exact reads_step_lessThan h c
  | endTag name => exact reads_step_endTag h name c
  | escapeStart =>
    rw [step]
    split_ifs with hdash
    · subst hdash
      exact suffix_concat h '-'
    · exact reads_fromData text c
  | escapeStartDash =>
    rw [step]
    split_ifs with hdash
    · subst hdash
      exact (suffix_concat h '-').isInfix
    · exact reads_fromData text c
  | escaped => exact reads_fromEscaped h c
  | escapedDash =>
    rw [step]
    split_ifs
    · exact Commented.concat h c
    · exact reads_fromEscaped h c
  | escapedDashDash =>
    rw [step]
    split_ifs
    · exact Commented.concat h c
    · trivial
    · exact reads_fromEscaped h c
  | escapedLessThan => exact reads_step_escapedLessThan h.1 h.2 c
  | escapedEndTag name => exact reads_step_escapedEndTag h.1 h.2 name c
  | doubleEscapeStart name => exact reads_step_doubleEscapeStart h.1 h.2 c
  | doubled => exact reads_fromDoubled h.1 h.2 c
  | doubledDash =>
    rw [step]
    split_ifs
    · exact ⟨h.1.concat c, h.2.concat c⟩
    · exact reads_fromDoubled h.1 h.2 c
  | doubledDashDash =>
    rw [step]
    split_ifs
    · exact ⟨h.1.concat c, h.2.concat c⟩
    · trivial
    · exact reads_fromDoubled h.1 h.2 c
  | doubledLessThan => exact reads_step_doubledLessThan h.1 h.2.1 h.2.2 c
  | doubleEscapeEnd name => exact reads_step_doubleEscapeEnd h.1 h.2.1 h.2.2 name c
  | left => exact Closed.concat h c

/-- A text has all that the state after it tells. -/
theorem reads_run (text : List Char) : Reads text (run data text) := by
  induction text using List.reverseRecOn with
  | nil => trivial
  | append_singleton text c ih =>
    rw [run_append]
    exact reads_step _ ih c

/-! ### The end of a line -/

/-- Without a closed tag, the end of a line leads to one of three states, and a double escape has
both a comment mark and a script tag before it. -/
theorem run_newline (h : ¬ Closed text) :
    run data (text ++ ['\n']) = data ∨
      run data (text ++ ['\n']) = escaped ∨
      run data (text ++ ['\n']) = doubled ∧ Commented text ∧ Tagged text := by
  have hreads := reads_run text
  rw [run_append]
  generalize run data text = st at hreads
  change step st '\n' = data ∨ step st '\n' = escaped ∨ step st '\n' = doubled ∧ _
  cases st with
  | data => exact .inl rfl
  | lessThan => exact .inl rfl
  | endTag name => exact absurd hreads h
  | escapeStart => exact .inl rfl
  | escapeStartDash => exact .inl rfl
  | escaped => exact .inr (.inl rfl)
  | escapedDash => exact .inr (.inl rfl)
  | escapedDashDash => exact .inr (.inl rfl)
  | escapedLessThan => exact .inr (.inl rfl)
  | escapedEndTag name => exact absurd hreads.2 h
  | doubleEscapeStart name =>
    by_cases htag : name = tagName
    · subst htag
      exact .inr (.inr ⟨rfl, hreads.1, hreads.2.isInfix⟩)
    · exact .inr (.inl (if_neg htag))
  | doubled => exact .inr (.inr ⟨rfl, hreads.1, hreads.2⟩)
  | doubledDash => exact .inr (.inr ⟨rfl, hreads.1, hreads.2⟩)
  | doubledDashDash => exact .inr (.inr ⟨rfl, hreads.1, hreads.2⟩)
  | doubledLessThan => exact .inr (.inr ⟨rfl, hreads.1, hreads.2.1⟩)
  | doubleEscapeEnd name => exact absurd hreads.2.2 h
  | left => exact absurd hreads h

end State

end ImportWeb.Render.ScriptData
