import ImportWeb.Proofs.Graph.Identifier
import ImportWeb.Proofs.Render.Dot.Token

/-!
Reading Graphviz text. A document is a sequence of statements, each of which ends with a
semicolon; node and edge statements say what is drawn. What is read from the rendered text is the
listing, as far as it is drawn: the text determines it whatever the labels are.
-/

namespace ImportWeb.Render.Dot

open Text

/-! ### The reader -/

/-- Names and values in the order in which they are written. -/
abbrev Attributes := List (List Char × List Char)

inductive Statement where
  | setting (name value : List Char)
  /-- What the statements after it start from. -/
  | defaults (attributes : Attributes)
  | node (name : List Char) (attributes : Attributes)
  | edge (source target : List Char) (attributes : Attributes)
  deriving DecidableEq, Repr

def Token.value? : Token → Option (List Char)
  | word s => some s
  | text s => some s
  | _ => none

/-- Attributes up to the bracket that closes them, which must be the last token. -/
def attributes? : List Token → Option Attributes
  | [.mark ']'] => some []
  | .word name :: .mark '=' :: value :: rest => do
    return (name, ← value.value?) :: (← attributes? rest)
  | _ => none

/-- The attributes at the end of a statement, which may have none. -/
def ending? : List Token → Option Attributes
  | [] => some []
  | .mark '[' :: rest => attributes? rest
  | _ => none

def statement? : List Token → Option Statement
  | [.word name, .mark '=', value] => return .setting name (← value.value?)
  | .word source :: .arrow :: .word target :: rest => return .edge source target (← ending? rest)
  | .word name :: rest => do
    let attributes ← ending? rest
    return if name = "node".toList then .defaults attributes else .node name attributes
  | _ => none

/-- The statements up to the brace that closes the graph, where the tokens of the open statement
are kept last first. -/
def statements? : List Token → List Token → Option (List Statement)
  | before, .mark ';' :: rest => return (← statement? before.reverse) :: (← statements? [] rest)
  | before, .mark '}' :: rest => if before = [] ∧ rest = [] then some [] else none
  | before, token :: rest => statements? (token :: before) rest
  | _, [] => none

def document? : List Token → Option (List Statement)
  | .word keyword :: .word _ :: .mark '{' :: rest =>
    if keyword = "digraph".toList then statements? [] rest else none
  | _ => none

/-- What a reader sees of a graph. -/
inductive Shown where
  /-- Files have their number of lines and external modules have none. -/
  | node (index : Nat) (label : String) (external : Bool) (size : Nat) (lines : Option Nat)
  | edge (source target count : Nat)
  deriving DecidableEq, Repr

/-- The number that a text writes, without leading zeros. -/
def number? (s : List Char) : Option Nat :=
  if decimal (ofDecimal s) = s then some (ofDecimal s) else none

def index? : List Char → Option Nat
  | 'n' :: digits => number? digits
  | _ => none

/-- Ten times a number with decimals, if that is whole. -/
def tenfold? (s : List Char) : Option Nat :=
  match splitAtChar '.' s with
  | [whole, decimals] =>
    let scale := 10 ^ decimals.length
    let scaled := 10 * ofDecimal (whole ++ decimals)
    if isDecimal whole && isDecimal decimals && scaled % scale == 0 then some (scaled / scale)
    else none
  | _ => none

def lineCount? (s : List Char) : Option Nat :=
  match splitAtChar ' ' s with
  | [count, unit] => if unit = "lines".toList then number? count else none
  | _ => none

/-- A diamond is an external module, and a node without a shape of its own is a file. -/
def isExternal? (attributes : Attributes) : Option Bool :=
  match attributes.lookup "shape".toList with
  | none => some false
  | some shape => if shape = "diamond".toList then some true else none

def linesOf? (external : Bool) (attributes : Attributes) : Option (Option Nat) :=
  if external then some none else ((attributes.lookup "tooltip".toList).bind lineCount?).map some

/-- The attributes of nodes and edges that are read. -/
def meanings : List (List Char) := ["label", "shape", "width", "tooltip"].map String.toList

/-- Defaults may only be about looks. -/
def Statement.shown? : Statement → Option (List Shown)
  | setting _ _ => some []
  | defaults attributes => if attributes.any (·.1 ∈ meanings) then none else some []
  | node name attributes => do
    let external ← isExternal? attributes
    return [.node (← index? name) (.ofList (← attributes.lookup "label".toList)) external
      (← (attributes.lookup "width".toList).bind tenfold?) (← linesOf? external attributes)]
  | edge source target attributes => do
    let count ← match attributes.lookup "label".toList with
      | none => some 1
      | some label => number? label
    return [.edge (← index? source) (← index? target) count]

/-- What is drawn by a text. -/
def read? (s : List Char) : Option (List Shown) := do
  let statements ← (tokens? s).bind document?
  return (← statements.mapM Statement.shown?).flatten

/-! ### Statements -/

variable {ts : List Token}

/-- No token of a statement ends it. -/
def Unbroken (ts : List Token) : Prop := Token.mark ';' ∉ ts ∧ Token.mark '}' ∉ ts

theorem statements?_unbroken (h : Unbroken ts) (before rest : List Token) :
    statements? before (ts ++ rest) = statements? (ts.reverse ++ before) rest := by
  induction ts generalizing before with
  | nil => rfl
  | cons t ts ih =>
    obtain ⟨hend, hclose⟩ := h
    rw [List.mem_cons, not_or] at hend hclose
    rw [List.cons_append, statements?, ih ⟨hend.2, hclose.2⟩]
    · simp
    · exact fun h => hend.1 h.symm
    · exact fun h => hclose.1 h.symm

theorem statements?_cons {statement : Statement} (hunbroken : Unbroken ts)
    (hread : statement? ts = some statement) (rest : List Token) :
    statements? [] (ts ++ .mark ';' :: rest) = (statements? [] rest).map (statement :: ·) := by
  rw [statements?_unbroken hunbroken, statements?, List.append_nil, List.reverse_reverse, hread]
  cases statements? [] rest <;> rfl

theorem statements?_flatMap {α : Type} {tokens : α → List Token} {statement : α → Statement}
    (hunbroken : ∀ a, Unbroken (tokens a)) (hread : ∀ a, statement? (tokens a) = some (statement a))
    (as : List α) (rest : List Token) :
    statements? [] (as.flatMap (fun a => tokens a ++ [.mark ';']) ++ rest) =
      (statements? [] rest).map (as.map statement ++ ·) := by
  induction as with
  | nil => simp
  | cons a as ih =>
    rw [List.flatMap_cons, List.append_assoc, List.append_assoc, List.singleton_append,
      statements?_cons (hunbroken a) (hread a), ih, Option.map_map]
    rfl

theorem nameOf_ne (i : Nat) : nameOf i ≠ "node".toList := by
  intro h
  have hdigits : decimal i = ['o', 'd', 'e'] := List.tail_eq_of_cons_eq h
  have hdigit := isDigit_of_mem_decimal (n := i) (c := 'o') (by simp [hdigits])
  cases hdigit

def nodeAttributes (n : ListedNode) : Attributes :=
  ("label".toList, n.label.toList) ::
    if n.external then
      [("shape".toList, "diamond".toList), ("fillcolor".toList, "#F9E79F".toList),
        ("width".toList, width n.size)]
    else
      [("fillcolor".toList, "#AED6F1".toList), ("width".toList, width n.size),
        ("tooltip".toList, decimal (n.lines.getD 0) ++ " lines".toList)]

theorem statement?_nodeTokens (i : Nat) (n : ListedNode) :
    statement? (nodeTokens i n) = some (.node (nameOf i) (nodeAttributes n)) := by
  have hending : ending? (.mark '[' :: (attributeTokens n ++ [.mark ']'])) =
      some (nodeAttributes n) := by
    unfold attributeTokens nodeAttributes
    cases n.external <;> rfl
  have hread (name : List Char) (rest : List Token) : statement? (.word name :: .mark '[' :: rest) =
      (ending? (.mark '[' :: rest)).bind fun attributes =>
        some (if name = "node".toList then .defaults attributes else .node name attributes) := rfl
  rw [nodeTokens, hread, hending, Option.bind_some, if_neg (nameOf_ne i)]

theorem unbroken_nodeTokens (i : Nat) (n : ListedNode) : Unbroken (nodeTokens i n) := by
  unfold Unbroken nodeTokens attributeTokens
  cases n.external <;> simp [setWord, setText]

def edgeAttributes (e : Nat × Nat × Nat) : Attributes :=
  if e.2.2 > 1 then [("label".toList, decimal e.2.2)] else []

theorem statement?_edgeTokens (e : Nat × Nat × Nat) :
    statement? (edgeTokens e) = some (.edge (nameOf e.1) (nameOf e.2.1) (edgeAttributes e)) := by
  unfold edgeTokens edgeAttributes
  split <;> rfl

theorem unbroken_edgeTokens (e : Nat × Nat × Nat) : Unbroken (edgeTokens e) := by
  unfold Unbroken edgeTokens
  split <;> simp [setText]

/-! ### What is drawn -/

@[simp] theorem number?_decimal (n : Nat) : number? (decimal n) = some n := by
  simp [number?]

@[simp] theorem index?_nameOf (i : Nat) : index? (nameOf i) = some i := number?_decimal i

theorem lineCount?_decimal (n : Nat) : lineCount? (decimal n ++ " lines".toList) = some n := by
  have hsplit : splitAtChar ' ' (decimal n ++ " lines".toList) = [decimal n, "lines".toList] :=
    splitAtChar_append (not_mem_decimal (by decide) n) "lines".toList
  rw [lineCount?, hsplit]
  exact number?_decimal n

theorem ofDecimal_concat (s : List Char) {d : Nat} (hd : d < 10) :
    ofDecimal (s ++ [Nat.digitChar d]) = 10 * ofDecimal s + d := by
  have hdigit : ∀ d, d < 10 → (Nat.digitChar d).toNat - '0'.toNat = d := by decide
  simp only [ofDecimal, List.foldl_append, List.foldl_cons, List.foldl_nil, hdigit d hd]

theorem tenfold?_width (size : Nat) : tenfold? (width size) = some size := by
  have hlast : decimal (size % 10) ++ ['0'] = [Nat.digitChar (size % 10), Nat.digitChar 0] := by
    rw [decimal, Nat.toDigits_of_lt_base (Nat.mod_lt size (by decide))]
    rfl
  have hpoint (n : Nat) : '.' ∉ decimal n := not_mem_decimal (by decide) n
  have hpoint' : '.' ∉ decimal (size % 10) ++ ['0'] := by
    rw [List.mem_append, not_or]
    exact ⟨hpoint (size % 10), by decide⟩
  have hsplit : splitAtChar '.' (width size) =
      [decimal (size / 10), decimal (size % 10) ++ ['0']] := by
    rw [width, List.append_assoc, List.cons_append, splitAtChar_append (hpoint (size / 10)),
      splitAtChar_of_not_mem hpoint']
  have hvalue : ofDecimal (decimal (size / 10) ++ (decimal (size % 10) ++ ['0'])) = 10 * size := by
    rw [hlast, List.append_cons, ofDecimal_concat _ (by decide),
      ofDecimal_concat _ (Nat.mod_lt size (by decide)), ofDecimal_decimal]
    omega
  have hdecimals : isDecimal (decimal (size % 10) ++ ['0']) = true := by
    have hall : (decimal (size % 10)).all Char.isDigit = true :=
      List.all_eq_true.2 fun c hc => isDigit_of_mem_decimal hc
    simp [isDecimal, hall]
  have hscale : 10 ^ (decimal (size % 10) ++ ['0']).length = 100 := by rw [hlast]; rfl
  simp only [tenfold?, hsplit, hscale, hvalue, hdecimals, isDecimal_decimal]
  have hmod : 10 * (10 * size) % 100 = 0 := by omega
  have hdiv : 10 * (10 * size) / 100 = size := by omega
  simp [hmod, hdiv]

theorem isExternal?_nodeAttributes (n : ListedNode) :
    isExternal? (nodeAttributes n) = some n.external := by
  unfold nodeAttributes
  cases n.external <;> rfl

theorem lookup_label (n : ListedNode) :
    (nodeAttributes n).lookup "label".toList = some n.label.toList := rfl

theorem lookup_width (n : ListedNode) :
    (nodeAttributes n).lookup "width".toList = some (width n.size) := by
  unfold nodeAttributes
  cases n.external <;> rfl

theorem linesOf?_nodeAttributes (n : ListedNode) :
    linesOf? n.external (nodeAttributes n) =
      some (if n.external then none else some (n.lines.getD 0)) := by
  unfold nodeAttributes linesOf?
  cases n.external with
  | true => rfl
  | false => exact congrArg (Option.map some) (lineCount?_decimal (n.lines.getD 0))

theorem shown?_node (i : Nat) (n : ListedNode) :
    (Statement.node (nameOf i) (nodeAttributes n)).shown? =
      some [.node i n.label n.external n.size
        (if n.external then none else some (n.lines.getD 0))] := by
  unfold Statement.shown?
  simp only [isExternal?_nodeAttributes, lookup_label, lookup_width, linesOf?_nodeAttributes,
    tenfold?_width, index?_nameOf, String.ofList_toList, Option.bind_eq_bind, Option.bind_some,
    Option.pure_def]

theorem shown?_edge (e : Nat × Nat × Nat) :
    (Statement.edge (nameOf e.1) (nameOf e.2.1) (edgeAttributes e)).shown? =
      some [.edge e.1 e.2.1 (max 1 e.2.2)] := by
  unfold edgeAttributes
  split
  case isTrue hcount =>
    have hmax : max 1 e.2.2 = e.2.2 := by omega
    simp [Statement.shown?, hmax]
  case isFalse hcount =>
    have hmax : max 1 e.2.2 = 1 := by omega
    simp [Statement.shown?, hmax]

/-! ### The rendered text -/

theorem document?_header (rest : List Token) :
    document? (headerTokens ++ rest) =
      (statements? [] rest).map fun statements => .setting "rankdir".toList "LR".toList ::
        .defaults [("style".toList, "filled".toList), ("fontname".toList, "monospace".toList)] ::
        statements := by
  have hopen : document? (headerTokens ++ rest) = statements? [] (setWord "rankdir" "LR".toList ++
      .mark ';' :: (defaultTokens ++ .mark ';' :: rest)) := rfl
  rw [hopen, statements?_cons ⟨by decide, by decide⟩ rfl,
    statements?_cons ⟨by decide, by decide⟩ rfl, Option.map_map]
  rfl

/-- The tokens are read as two settings and a statement for each node and edge. -/
theorem document?_render (l : Listing) :
    (tokens? (render l)).bind document? =
      some (.setting "rankdir".toList "LR".toList ::
        .defaults [("style".toList, "filled".toList), ("fontname".toList, "monospace".toList)] ::
        ((l.nodes.zipIdx.map fun p => .node (nameOf p.2) (nodeAttributes p.1)) ++
          l.joined.map fun e => .edge (nameOf e.1) (nameOf e.2.1) (edgeAttributes e))) := by
  have hnodes := statements?_flatMap (fun p : ListedNode × Nat => unbroken_nodeTokens p.2 p.1)
    (fun p => statement?_nodeTokens p.2 p.1) l.nodes.zipIdx
  have hedges := statements?_flatMap unbroken_edgeTokens statement?_edgeTokens l.joined
  have hend : statements? [] [.mark '}'] = some [] := rfl
  rw [tokens?_render, Option.bind_some, List.append_assoc, List.append_assoc,
    document?_header, hnodes, hedges, hend]
  simp

theorem mapM_shown? {α : Type} {statement : α → Statement} {shown : α → Shown}
    (h : ∀ a, (statement a).shown? = some [shown a]) (as : List α) :
    (as.map statement).mapM Statement.shown? = some (as.map fun a => [shown a]) := by
  rw [List.mapM_map]
  simp only [Function.comp_def, h]
  exact List.mapM_pure

/-- The rendered text is read back as the nodes in order, with all that is drawn of them, and the
edges in order whose ends are both listed, each between the last nodes under its identifiers. -/
theorem read?_render (l : Listing) :
    read? (render l) = some (
      (l.nodes.zipIdx.map fun p => .node p.2 p.1.label p.1.external p.1.size
        (if p.1.external then none else some (p.1.lines.getD 0))) ++
      l.edges.filterMap fun e => do
        return .edge (← l.lastIndex? e.source) (← l.lastIndex? e.target) (max 1 e.count)) := by
  have hnodes := mapM_shown? (fun p : ListedNode × Nat => shown?_node p.2 p.1) l.nodes.zipIdx
  have hedges := mapM_shown? shown?_edge l.joined
  have hjoined : (l.edges.filterMap fun e => do
      return Shown.edge (← l.lastIndex? e.source) (← l.lastIndex? e.target) (max 1 e.count)) =
      l.joined.map fun e => .edge e.1 e.2.1 (max 1 e.2.2) := by
    rw [Listing.joined_eq, List.map_filterMap]
    congr 1
    funext e
    cases l.lastIndex? e.source <;> cases l.lastIndex? e.target <;> rfl
  have hsetting : (Statement.setting "rankdir".toList "LR".toList).shown? = some [] := rfl
  have hdefaults : (Statement.defaults [("style".toList, "filled".toList),
      ("fontname".toList, "monospace".toList)]).shown? = some [] := by decide
  rw [read?, document?_render, hjoined]
  simp only [Option.bind_eq_bind, Option.bind_some, Option.pure_def, List.mapM_cons,
    List.mapM_append, hsetting, hdefaults, hnodes, hedges, List.flatten_cons, List.flatten_append,
    List.nil_append, ← List.flatMap_def]
  rw [List.map_eq_flatMap, List.map_eq_flatMap]

/-- A label that looks like the end of its own statement. -/
example : read? (render ⟨[⟨"a", "\"];\\", 5, .diamond, true, none⟩], []⟩) =
    some [.node 0 "\"];\\" true 5 none] := by decide +kernel

end ImportWeb.Render.Dot
