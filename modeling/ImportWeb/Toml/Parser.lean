import ImportWeb.Toml.Scalar

/-!
Reading TOML documents: values, keys, and the lines that hold them.
-/

namespace ImportWeb.Toml

/-- How deep values and dotted keys may nest: fewer levels than this. -/
def depthLimit : Nat := 80

/-! ### Keys -/

def isBareKeyChar (c : Char) : Bool := c.isAlphanum || c = '-' || c = '_'

def simpleKey? (s : List Char) : Option (String × List Char) :=
  match s with
  | '"' :: rest => basic? (rest.length + 1) [] rest
  | '\'' :: rest => literal? rest
  | s =>
    let key := s.takeWhile isBareKeyChar
    if key.isEmpty then none else some (String.ofList key, s.drop key.length)

/-- The parts of a key, with dots between them and spaces around them. -/
def keyParts? (fuel : Nat) (s : List Char) : Option (List String × List Char) :=
  match fuel with
  | 0 => none
  | fuel + 1 => do
    let (key, rest) ← simpleKey? (skipSpace s)
    match skipSpace rest with
    | '.' :: rest =>
      let (keys, rest) ← keyParts? fuel rest
      return (key :: keys, rest)
    | rest => return ([key], rest)

def key? (s : List Char) : Option (List String × List Char) := do
  let (keys, rest) ← keyParts? (s.length + 1) s
  if keys.length < depthLimit then some (keys, rest) else none

/-! ### Values -/

mutual

def value? (fuel depth : Nat) (s : List Char) : Option (Value × List Char) :=
  match fuel with
  | 0 => none
  | fuel + 1 =>
    match s with
    | '"' :: rest => (string? ('"' :: rest)).map fun (text, rest) => (.string text, rest)
    | '\'' :: rest => (string? ('\'' :: rest)).map fun (text, rest) => (.string text, rest)
    | '[' :: rest =>
      if depth + 1 < depthLimit then do
        let (items, rest) ← items? fuel (depth + 1) (skipBlank (rest.length + 1) rest)
        return (.array items, rest)
      else none
    | '\x7b' :: rest =>
      if depth + 1 < depthLimit then
        match skipSpace rest with
        | '\x7d' :: rest => some (.table [], rest)
        | rest => do
          let (table, rest) ← pairs? fuel (depth + 1) .root rest
          return (table.item.toValue, rest)
      else none
    | 't' :: rest => (Text.dropPrefix? "rue".toList rest).map (.boolean true, ·)
    | 'f' :: rest => (Text.dropPrefix? "alse".toList rest).map (.boolean false, ·)
    | 'i' :: rest => specialFloat? ('i' :: rest)
    | 'n' :: rest => specialFloat? ('n' :: rest)
    | s => numeric? s

/-- The items of an array up to the closing bracket; a comma may follow the last one. -/
def items? (fuel depth : Nat) (s : List Char) : Option (List Value × List Char) :=
  match fuel with
  | 0 => none
  | fuel + 1 =>
    match s with
    | ']' :: rest => some ([], rest)
    | s => do
      let (item, rest) ← value? fuel depth s
      match skipBlank (rest.length + 1) rest with
      | ',' :: rest =>
        let (items, rest) ← items? fuel depth (skipBlank (rest.length + 1) rest)
        return (item :: items, rest)
      | ']' :: rest => return ([item], rest)
      | _ => none

/-- The fields of a table in braces, one at least, up to the closing brace. -/
def pairs? (fuel depth : Nat) (t : Table) (s : List Char) : Option (Table × List Char) :=
  match fuel with
  | 0 => none
  | fuel + 1 => do
    let (path, rest) ← key? s
    match rest with
    | '=' :: rest =>
      let (v, rest) ← value? fuel depth (skipSpace rest)
      let t ← t.addValue path v
      match skipSpace rest with
      | ',' :: rest => pairs? fuel depth t rest
      | '\x7d' :: rest => return (t, rest)
      | _ => none
    | _ => none

end

/-! ### Lines -/

/-- What follows the end of a line: spaces, a comment, and a line break or the end. -/
def lineEnd? (s : List Char) : Option (List Char) :=
  let s := skipSpace s
  let s := (comment? s).getD s
  if s.isEmpty then some [] else newline? s

/-- The document so far, and the path of the table that keys go to. -/
structure Reading where
  document : Table
  path : List String

/-- A table header, after its first bracket. -/
def header? (r : Reading) (s : List Char) : Option (Reading × List Char) := do
  match s with
  | '[' :: rest =>
    let (path, rest) ← key? rest
    let rest ← Text.dropPrefix? [']', ']'] rest
    return (⟨← r.document.openElement path, path⟩, ← lineEnd? rest)
  | s =>
    let (path, rest) ← key? s
    let rest ← Text.dropPrefix? [']'] rest
    return (⟨← r.document.openTable path, path⟩, ← lineEnd? rest)

/-- A key and its value. -/
def keyValue? (r : Reading) (s : List Char) : Option (Reading × List Char) := do
  let (path, rest) ← key? s
  let rest ← Text.dropPrefix? ['='] rest
  let (v, rest) ← value? (2 * rest.length + 2) 0 (skipSpace rest)
  let document ← r.document.within false (·.addValue path v) r.path
  return (⟨document, r.path⟩, ← lineEnd? rest)

def lines? (fuel : Nat) (r : Reading) (s : List Char) : Option Table :=
  match fuel with
  | 0 => none
  | fuel + 1 =>
    match skipSpace s with
    | [] => some r.document
    | '[' :: rest => do
      let (r, rest) ← header? r rest
      lines? fuel r rest
    | s =>
      match newline? s with
      | some rest => lines? fuel r rest
      | none =>
        if s.head? = some '#' then do lines? fuel r (← lineEnd? s)
        else do
          let (r, rest) ← keyValue? r s
          lines? fuel r rest

/-- The value of a document: a table. A byte order mark at its start does not count. -/
def parse? (s : List Char) : Option Value :=
  let s := match s with
    | '\ufeff' :: rest => rest
    | s => s
  (lines? (s.length + 1) ⟨.root, []⟩ s).map fun t => t.item.toValue

end ImportWeb.Toml
