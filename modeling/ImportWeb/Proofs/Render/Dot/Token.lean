import ImportWeb.Render.Dot

/-!
The tokens of Graphviz text. Inside quotes a backslash stands for the character after it, and the
first quote without one ends the text. What the renderer writes into a label is scanned back as
that label, and what it writes as a number as one word.
-/

namespace ImportWeb.Render.Dot

open Text

inductive Token where
  /-- A name or a number. -/
  | word (s : List Char)
  /-- A text that stood in quotes. -/
  | text (s : List Char)
  | mark (c : Char)
  | arrow
  deriving DecidableEq, Repr

/-- Where the next character stands. The characters of an open token are kept last first. -/
inductive Mode where
  | between
  | word (s : List Char)
  | dash
  | text (s : List Char)
  | escape (s : List Char)
  deriving DecidableEq, Repr

def isWordChar (c : Char) : Bool := c.isAlphanum || c = '_' || c = '.'

def marks : List Char := ['{', '}', '[', ']', '=', ';', ',']

def gaps : List Char := [' ', '\n', '\r', '\t']

/-- A character between tokens. -/
def start? (c : Char) : Option (List Token × Mode) :=
  if c ∈ gaps then some ([], .between)
  else if c ∈ marks then some ([.mark c], .between)
  else if c = '"' then some ([], .text [])
  else if c = '-' then some ([], .dash)
  else if isWordChar c then some ([], .word [c])
  else none

/-- The tokens that a character completes, and the mode after it. -/
def step? : Mode → Char → Option (List Token × Mode)
  | .between, c => start? c
  | .word s, c =>
    if isWordChar c then some ([], .word (c :: s))
    else (start? c).map fun (tokens, mode) => (.word s.reverse :: tokens, mode)
  | .dash, c => if c = '>' then some ([.arrow], .between) else none
  | .text s, c =>
    if c = '"' then some ([.text s.reverse], .between)
    else if c = '\\' then some ([], .escape s)
    else some ([], .text (c :: s))
  | .escape s, c => some ([], .text (c :: s))

def scan? : Mode → List Char → Option (List Token × Mode)
  | mode, [] => some ([], mode)
  | mode, c :: rest => do
    let (first, mode) ← step? mode c
    let (later, mode) ← scan? mode rest
    return (first ++ later, mode)

/-- The tokens of a whole text, which must not end inside of one. -/
def tokens? (s : List Char) : Option (List Token) :=
  match scan? .between s with
  | some (tokens, .between) => some tokens
  | _ => none

/-! ### Scanning piece by piece -/

/-- Between two modes a text is scanned as the given tokens. -/
def Scans (start : Mode) (s : List Char) (tokens : List Token) (stop : Mode) : Prop :=
  scan? start s = some (tokens, stop)

instance (start : Mode) (s : List Char) (tokens : List Token) (stop : Mode) :
    Decidable (Scans start s tokens stop) :=
  inferInstanceAs (Decidable (_ = _))

variable {s t w : List Char} {ts us : List Token} {start middle stop : Mode} {c : Char}

theorem Scans.nil (mode : Mode) : Scans mode [] [] mode := rfl

theorem Scans.cons (hc : step? start c = some (ts, middle)) (hs : Scans middle s us stop) :
    Scans start (c :: s) (ts ++ us) stop := by
  unfold Scans at hs ⊢
  simp [scan?, hc, hs]

theorem Scans.append (hs : Scans start s ts middle) (ht : Scans middle t us stop) :
    Scans start (s ++ t) (ts ++ us) stop := by
  unfold Scans at hs ht
  induction s generalizing start ts with
  | nil =>
    obtain ⟨rfl, rfl⟩ := Prod.mk.inj (Option.some.inj hs)
    exact ht
  | cons c s ih =>
    rw [scan?] at hs
    obtain ⟨⟨first, mode⟩, hc, hs⟩ := Option.bind_eq_some_iff.1 hs
    obtain ⟨⟨later, mode'⟩, hs', hs⟩ := Option.bind_eq_some_iff.1 hs
    obtain ⟨rfl, rfl⟩ := Prod.mk.inj (Option.some.inj hs)
    rw [List.append_assoc]
    exact Scans.cons hc (ih hs')

theorem Scans.tokens? (h : Scans .between s ts .between) : tokens? s = some ts := by
  rw [Dot.tokens?, h]

/-! ### What the renderer writes -/

/-- A quoted label is scanned back as the label. -/
theorem scans_escape (s done : List Char) :
    Scans (.text done) (escape s) [] (.text (s.reverse ++ done)) := by
  induction s generalizing done with
  | nil => exact .nil _
  | cons c s ih =>
    have hchar : Scans (.text done) (escapeChar c) [] (.text (c :: done)) := by
      unfold escapeChar
      split
      case isTrue h =>
        subst h
        rfl
      case isFalse hslash =>
        split
        case isTrue h =>
          subst h
          rfl
        case isFalse hquote => simp [Scans, scan?, step?, hslash, hquote]
    have hlater := hchar.append (ih (c :: done))
    simpa [escape] using hlater

theorem scans_plain (h : ∀ c ∈ s, c ≠ '"' ∧ c ≠ '\\') (done : List Char) :
    Scans (.text done) s [] (.text (s.reverse ++ done)) := by
  have hescape : escape s = s := by
    induction s with
    | nil => rfl
    | cons c s ih =>
      obtain ⟨hc, hs⟩ := List.forall_mem_cons.1 h
      have hchar : escapeChar c = [c] := by simp [escapeChar, hc]
      rw [escape, List.flatMap_cons, hchar, ← escape, ih hs]
      rfl
  have hscan := scans_escape s done
  rwa [hescape] at hscan

theorem scans_wordChars (h : ∀ c ∈ s, isWordChar c = true) (done : List Char) :
    Scans (.word done) s [] (.word (s.reverse ++ done)) := by
  induction s generalizing done with
  | nil => exact .nil _
  | cons c s ih =>
    obtain ⟨hc, hs⟩ := List.forall_mem_cons.1 h
    have hstep : step? (.word done) c = some ([], .word (c :: done)) := if_pos hc
    have hlater := Scans.cons hstep (ih hs (c :: done))
    simpa using hlater

theorem start?_wordChar (h : isWordChar c = true) : start? c = some ([], .word [c]) := by
  have hno : (gaps ++ marks ++ ['"', '-']).any isWordChar = false := by decide
  have hc : c ∉ gaps ++ marks ++ ['"', '-'] := by
    intro hmem
    rw [List.any_eq_true.2 ⟨c, hmem, h⟩] at hno
    cases hno
  simp only [List.mem_append, List.mem_cons, List.not_mem_nil, or_false, not_or] at hc
  simp [start?, hc, h]

theorem scans_word (h : ∀ c ∈ s, isWordChar c = true) (hne : s ≠ []) :
    Scans .between s [] (.word s.reverse) := by
  obtain ⟨c, rest, rfl⟩ := List.exists_cons_of_ne_nil hne
  obtain ⟨hc, hrest⟩ := List.forall_mem_cons.1 h
  have hstep : step? .between c = some ([], .word [c]) := start?_wordChar hc
  have hlater := Scans.cons hstep (scans_wordChars hrest [c])
  simpa using hlater

/-- What follows a word completes it and is scanned as if it stood alone. -/
theorem scans_afterWord (hs : Scans .between s ts stop)
    (hhead : s.head?.map isWordChar = some false) (w : List Char) : Scans (.word w.reverse) s (.word w :: ts) stop := by
  cases s with
  | nil => cases hhead
  | cons c s =>
    have hc : isWordChar c = false := Option.some.inj hhead
    unfold Scans at *
    rw [scan?] at hs
    obtain ⟨⟨first, mode⟩, hfirst, hs⟩ := Option.bind_eq_some_iff.1 hs
    obtain ⟨⟨later, mode'⟩, hlater, hs⟩ := Option.bind_eq_some_iff.1 hs
    obtain ⟨rfl, rfl⟩ := Prod.mk.inj (Option.some.inj hs)
    have hstart : start? c = some (first, mode) := hfirst
    simp [scan?, step?, hc, hstart, hlater]

theorem scans_endText (hs : Scans .between s ts stop) (w : List Char) :
    Scans (.text w.reverse) ('"' :: s) (.text w :: ts) stop := by
  have hquote : step? (.text w.reverse) '"' = some ([.text w], .between) := by simp [step?]
  exact Scans.cons hquote hs

theorem isWordChar_of_mem_decimal {n : Nat} (h : c ∈ decimal n) : isWordChar c = true := by
  simp [isWordChar, Char.isAlphanum, isDigit_of_mem_decimal h]

theorem plain_of_mem_decimal {n : Nat} (h : c ∈ decimal n) : c ≠ '"' ∧ c ≠ '\\' := by
  have hdigit := isDigit_of_mem_decimal h
  constructor <;> rintro rfl <;> cases hdigit

theorem isWordChar_of_mem_width {size : Nat} (h : c ∈ width size) : isWordChar c = true := by
  simp only [width, List.mem_append, List.mem_cons, List.not_mem_nil, or_false] at h
  rcases h with (h | rfl | h) | rfl
  · exact isWordChar_of_mem_decimal h
  · decide
  · exact isWordChar_of_mem_decimal h
  · decide

/-! ### Lines -/

/-- The name of a node. -/
def nameOf (i : Nat) : List Char := 'n' :: decimal i

theorem scans_nameOf (i : Nat) :
    Scans (.word ['n']) (decimal i) [] (.word (nameOf i).reverse) := by
  have hdigits := scans_wordChars (fun _ => isWordChar_of_mem_decimal (n := i)) ['n']
  rwa [← List.reverse_cons] at hdigits

theorem scans_width (size : Nat) : Scans .between (width size) [] (.word (width size).reverse) :=
  scans_word (fun _ => isWordChar_of_mem_width) (by simp [width])

/-- A name, an equals sign and a word. -/
def setWord (key : String) (value : List Char) : List Token :=
  [.word key.toList, .mark '=', .word value]

/-- A name, an equals sign and a text. -/
def setText (key : String) (value : List Char) : List Token :=
  [.word key.toList, .mark '=', .text value]

theorem scans_label (w : List Char) (hs : Scans .between s ts stop) :
    Scans .between ("label=\"".toList ++ (escape w ++ '"' :: s)) (setText "label" w ++ ts)
      stop := by
  have hopen : Scans .between "label=\"".toList [.word "label".toList, .mark '='] (.text []) := rfl
  have htext : Scans (.text []) (escape w) [] (.text w.reverse) := by
    simpa using scans_escape w []
  exact hopen.append (htext.append (scans_endText hs w))

theorem scans_plainText (hplain : ∀ c ∈ w, c ≠ '"' ∧ c ≠ '\\') (hs : Scans .between s ts stop) :
    Scans (.text []) (w ++ '"' :: s) (.text w :: ts) stop := by
  have htext : Scans (.text []) w [] (.text w.reverse) := by
    simpa using scans_plain hplain []
  exact htext.append (scans_endText hs w)

/-- The tokens of a node's attributes. -/
def attributeTokens (n : ListedNode) : List Token :=
  setText "label" n.label.toList ++
    if n.external then
      setWord "shape" "diamond".toList ++ setText "fillcolor" "#F9E79F".toList ++
        setWord "width" (width n.size)
    else
      setText "fillcolor" "#AED6F1".toList ++ setWord "width" (width n.size) ++
        setText "tooltip" (decimal (n.lines.getD 0) ++ " lines".toList)

def nodeTokens (i : Nat) (n : ListedNode) : List Token :=
  .word (nameOf i) :: .mark '[' :: (attributeTokens n ++ [.mark ']'])

def edgeTokens (e : Nat × Nat × Nat) : List Token :=
  .word (nameOf e.1) :: .arrow :: .word (nameOf e.2.1) ::
    if e.2.2 > 1 then .mark '[' :: (setText "label" (decimal e.2.2) ++ [.mark ']']) else []

theorem scans_attributes (n : ListedNode) :
    Scans .between (attributes n ++ "];\n".toList)
      (attributeTokens n ++ [.mark ']', .mark ';']) .between := by
  have hend : Scans .between "];\n".toList [.mark ']', .mark ';'] .between := rfl
  unfold attributes attributeTokens
  cases n.external with
  | true =>
    have hshape : Scans .between (' ' :: "shape=diamond fillcolor=\"#F9E79F\" width=".toList)
      (setWord "shape" "diamond".toList ++ setText "fillcolor" "#F9E79F".toList ++
        [.word "width".toList, .mark '=']) .between := rfl
    have hwidth := (scans_width n.size).append (scans_afterWord hend (by decide) (width n.size))
    have hall := scans_label n.label.toList (hshape.append hwidth)
    simp only [List.append_assoc, List.cons_append, List.nil_append, if_true] at hall ⊢
    exact hall
  | false =>
    have hfill : Scans .between (' ' :: "fillcolor=\"#AED6F1\" width=".toList)
      (setText "fillcolor" "#AED6F1".toList ++ [.word "width".toList, .mark '=']) .between := rfl
    have htooltip : Scans .between " tooltip=\"".toList [.word "tooltip".toList, .mark '=']
      (.text []) := rfl
    have hplain : ∀ c ∈ decimal (n.lines.getD 0) ++ " lines".toList, c ≠ '"' ∧ c ≠ '\\' := by
      intro c hc
      rcases List.mem_append.1 hc with hc | hc
      · exact plain_of_mem_decimal hc
      · have hunit : " lines".toList.all (fun c => c != '"' && c != '\\') = true := by decide
        simpa using List.all_eq_true.1 hunit c hc
    have hlines := htooltip.append (scans_plainText hplain hend)
    have hwidth := (scans_width n.size).append (scans_afterWord hlines rfl (width n.size))
    have hall := scans_label n.label.toList (hfill.append hwidth)
    have hsplit : " lines\"".toList = " lines".toList ++ ['"'] := rfl
    rw [hsplit]
    simp only [List.append_assoc, List.cons_append, List.nil_append, Bool.false_eq_true,
      if_false] at hall ⊢
    exact hall

theorem scans_nodeLine (i : Nat) (n : ListedNode) :
    Scans .between (nodeLine i n) (nodeTokens i n ++ [.mark ';']) .between := by
  have hname : Scans .between "    n".toList [] (.word ['n']) := rfl
  have hbracket : Scans .between " [".toList [.mark '['] .between := rfl
  have hrest := scans_afterWord (hbracket.append (scans_attributes n)) rfl (nameOf i)
  have hall := hname.append ((scans_nameOf i).append hrest)
  unfold nodeLine nodeTokens
  simp only [List.append_assoc, List.cons_append, List.nil_append] at hall ⊢
  exact hall

theorem scans_edgeLine (e : Nat × Nat × Nat) :
    Scans .between (edgeLine e) (edgeTokens e ++ [.mark ';']) .between := by
  obtain ⟨source, target, count⟩ := e
  have hname : Scans .between "    n".toList [] (.word ['n']) := rfl
  have harrow : Scans .between " -> n".toList [.arrow] (.word ['n']) := rfl
  have hend : Scans .between [';', '\n'] [.mark ';'] .between := rfl
  unfold edgeLine edgeTokens
  by_cases hcount : count > 1
  · have hopen : Scans .between " [label=\"".toList [.mark '[', .word "label".toList, .mark '=']
      (.text []) := rfl
    have hclose : Scans .between [']', ';', '\n'] [.mark ']', .mark ';'] .between := rfl
    have hplain : ∀ c ∈ decimal count, c ≠ '"' ∧ c ≠ '\\' := fun _ => plain_of_mem_decimal
    have hlabel := hopen.append (scans_plainText hplain hclose)
    have htarget := (scans_nameOf target).append (scans_afterWord hlabel rfl (nameOf target))
    have hsource := scans_afterWord (harrow.append htarget) rfl (nameOf source)
    have hall := hname.append ((scans_nameOf source).append hsource)
    have hsplit : "\"]".toList = ['"', ']'] := rfl
    rw [if_pos hcount, if_pos hcount, hsplit]
    simp only [List.append_assoc, List.cons_append, List.nil_append] at hall ⊢
    exact hall
  · have htarget := (scans_nameOf target).append (scans_afterWord hend rfl (nameOf target))
    have hsource := scans_afterWord (harrow.append htarget) rfl (nameOf source)
    have hall := hname.append ((scans_nameOf source).append hsource)
    rw [if_neg hcount, if_neg hcount]
    simp only [List.append_assoc, List.cons_append, List.nil_append] at hall ⊢
    exact hall

/-! ### The whole text -/

theorem scans_flatMap {α : Type} {line : α → List Char} {tokens : α → List Token}
    (h : ∀ a, Scans .between (line a) (tokens a) .between) (as : List α) :
    Scans .between (as.flatMap line) (as.flatMap tokens) .between := by
  induction as with
  | nil => exact .nil _
  | cons a as ih => exact (h a).append ih

theorem nodeLines_eq (i : Nat) (nodes : List ListedNode) :
    nodeLines i nodes = (nodes.zipIdx i).flatMap fun p => nodeLine p.2 p.1 := by
  induction nodes generalizing i with
  | nil => rfl
  | cons n nodes ih => rw [nodeLines, ih, List.zipIdx_cons, List.flatMap_cons]

/-- What all nodes have. -/
def defaultTokens : List Token :=
  .word "node".toList :: .mark '[' :: (setWord "style" "filled".toList ++
    setWord "fontname" "monospace".toList ++ [.mark ']'])

def headerTokens : List Token :=
  [.word "digraph".toList, .word "codeweb".toList, .mark '{'] ++
    setWord "rankdir" "LR".toList ++ .mark ';' :: defaultTokens ++ [.mark ';']

/-- A graph is scanned as its header, a statement for each node and a statement for each edge. -/
theorem tokens?_render (l : Listing) :
    tokens? (render l) = some (headerTokens ++
      l.nodes.zipIdx.flatMap (fun p => nodeTokens p.2 p.1 ++ [.mark ';']) ++
      l.joined.flatMap (fun e => edgeTokens e ++ [.mark ';']) ++ [.mark '}']) := by
  have hheader : Scans .between header headerTokens .between := by
    decide +kernel
  have hnodes := scans_flatMap (fun p : ListedNode × Nat => scans_nodeLine p.2 p.1) l.nodes.zipIdx
  have hedges := scans_flatMap scans_edgeLine l.joined
  have hend : Scans .between ['}', '\n'] [.mark '}'] .between := rfl
  have hall := ((hheader.append hnodes).append hedges).append hend
  rw [render, nodeLines_eq]
  exact hall.tokens?

end ImportWeb.Render.Dot
