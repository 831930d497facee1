import ImportWeb.Text.Split

/-!
File paths as they are written: a text whose pieces are separated by slashes. Empty pieces
and single dots have no meaning, except that a path may begin with a dot; two dots stand for
the directory above. Operations that rebuild a path keep the rest of its text as written.
-/

namespace ImportWeb

structure Path where
  chars : List Char
  deriving DecidableEq, Repr, Inhabited

/-- What one piece of a path means. A name is a text, or the bytes that stand for one. -/
inductive Component (ν : Type := List Char) where
  | root
  | here
  | up
  | name (text : ν)
  deriving DecidableEq, Repr, Inhabited

def Component.text : Component → List Char
  | .root => ['/']
  | .here => ['.']
  | .up => ['.', '.']
  | .name text => text

/-- The text of a name. -/
def Component.name? {ν : Type} : Component ν → Option ν
  | .name text => some text
  | _ => none

namespace Path

open Text

def ofString (s : String) : Path := ⟨s.toList⟩

def toString (p : Path) : String := String.ofList p.chars

/-- Where a path starts, which no step towards its parent takes away. -/
inductive Anchor where
  | root
  | here
  | nothing
  deriving DecidableEq, Repr, Inhabited

namespace Anchor

variable {α : Type} [DecidableEq α]

/-- The anchor of a path with these pieces between its slashes. -/
def ofPieces (dot : α) : List (List α) → Anchor
  | [] :: _ :: _ => root
  | [c] :: _ => if c = dot then here else nothing
  | _ => nothing

theorem ofPieces_root (dot : α) (piece : List α) (rest : List (List α)) :
    ofPieces dot ([] :: piece :: rest) = root := rfl

theorem ofPieces_here (dot : α) (rest : List (List α)) : ofPieces dot ([dot] :: rest) = here :=
  if_pos rfl

theorem ofPieces_nothing {dot : α} {piece : List α} (hnil : piece ≠ []) (hdot : piece ≠ [dot])
    (rest : List (List α)) : ofPieces dot (piece :: rest) = nothing := by
  match piece, hnil, hdot with
  | [c], _, hdot => exact if_neg fun h => hdot (congrArg (fun c => [c]) h)
  | _ :: _ :: _, _, _ => rfl

theorem ofPieces_ne_root {dot : α} {piece : List α} (hnil : piece ≠ []) (rest : List (List α)) :
    ofPieces dot (piece :: rest) ≠ root := by
  by_cases hdot : piece = [dot]
  · simp [hdot, ofPieces_here]
  · simp [ofPieces_nothing hnil hdot]

/-- The pieces after the anchor. -/
def behind (pieces : List (List α)) : Anchor → List (List α)
  | root => pieces.tail
  | here => pieces.tail
  | nothing => pieces

omit [DecidableEq α] in
theorem mem_of_mem_behind {piece : List α} {pieces : List (List α)} {a : Anchor}
    (h : piece ∈ a.behind pieces) : piece ∈ pieces := by
  cases a with
  | nothing => exact h
  | root => exact List.mem_of_mem_tail h
  | here => exact List.mem_of_mem_tail h

def component? {ν : Type} : Anchor → Option (Component ν)
  | root => some .root
  | here => some .here
  | nothing => none

/-- The text of a path with this anchor and these pieces after it. -/
def join (pieces : List (List Char)) : Anchor → List Char
  | root => '/' :: joinWith ['/'] pieces
  | here => if pieces.isEmpty then ['.'] else '.' :: '/' :: joinWith ['/'] pieces
  | nothing => joinWith ['/'] pieces

end Anchor

/-- The meaning of a piece after the anchor, if it has one. -/
def component? {α : Type} [DecidableEq α] (dot : α) (piece : List α) :
    Option (Component (List α)) :=
  if piece = [] then none
  else if piece = [dot] then none
  else if piece = [dot, dot] then some .up
  else some (.name piece)

def anchor (p : Path) : Anchor := .ofPieces '.' (splitAtChar '/' p.chars)

/-- The pieces after the anchor. -/
def pieces (p : Path) : List (List Char) := p.anchor.behind (splitAtChar '/' p.chars)

def isAbsolute (p : Path) : Bool := p.anchor = .root

def components (p : Path) : List Component :=
  p.anchor.component?.toList ++ p.pieces.filterMap (component? '.')

/-- The pieces up to the last one with a meaning. -/
def meaningful (pieces : List (List Char)) : List (List Char) :=
  (pieces.reverse.dropWhile fun piece => (component? '.' piece).isNone).reverse

/-- The path without its last component; none for the root and for the empty path. -/
def parent? (p : Path) : Option Path :=
  match meaningful p.pieces with
  | [] => if p.anchor = .here then some ⟨[]⟩ else none
  | pieces => some ⟨p.anchor.join (meaningful pieces.dropLast)⟩

/-- `parent?`, a number of times. -/
def ancestor? (p : Path) : Nat → Option Path
  | 0 => some p
  | n + 1 => do (← p.parent?).ancestor? n

/-- Appends a segment. An absolute segment takes the place of the whole path. -/
def push (p : Path) (segment : List Char) : Path :=
  if segment.head? = some '/' then ⟨segment⟩
  else if p.chars.getLast?.all (· = '/') then ⟨p.chars ++ segment⟩
  else ⟨p.chars ++ '/' :: segment⟩

/-- Appends characters to the last piece. -/
def append (p : Path) (suffix : List Char) : Path := ⟨p.chars ++ suffix⟩

/-- The last component, if it is a name. -/
def fileName? (p : Path) : Option (List Char) :=
  match p.components.getLast? with
  | some (.name text) => some text
  | _ => none

/-- A file name cut at its last dot, which does not count at the very start. -/
def cutExtension (name : List Char) : List Char × Option (List Char) :=
  let extension := (name.reverse.takeWhile (· != '.')).reverse
  let stem := name.take (name.length - extension.length - 1)
  if stem.isEmpty then (name, none) else (stem, some extension)

def fileStem? (p : Path) : Option (List Char) := p.fileName?.map fun name => (cutExtension name).1

def extension? (p : Path) : Option (List Char) :=
  p.fileName?.bind fun name => (cutExtension name).2

/-- One component more on a normalized list of components, the last one first. -/
def normalStep (done : List Component) : Component → List Component
  | .here => done
  | .up =>
    match done with
    | .root :: _ => done
    | .name _ :: rest => rest
    | _ => .up :: done
  | c => c :: done

def normalize (components : List Component) : List Component :=
  (components.foldl normalStep []).reverse

/-- The path with the given components. -/
def ofComponents : List Component → Path
  | .root :: rest => ⟨'/' :: joinWith ['/'] (rest.map Component.text)⟩
  | components => ⟨joinWith ['/'] (components.map Component.text)⟩

/-- The lexical normal form: no dots, no doubled slashes, and a name before two dots goes
away together with them. The empty path becomes a dot. -/
def clean (p : Path) : Path :=
  match normalize p.components with
  | [] => ⟨['.']⟩
  | components => ofComponents components

end Path

end ImportWeb
