import ImportWeb.Pattern.CharSet
import ImportWeb.Unicode.CaseFold
import ImportWeb.Unicode.Category
import ImportWeb.Unicode.Property
import ImportWeb.Unicode.Script

/-!
Character classes of the Unicode standard by name. Names are compared without regard to case,
spaces, hyphens and underscores.
-/

namespace ImportWeb.Unicode

open Pattern

def hexValue (c : Char) : Nat :=
  if c.isDigit then c.toNat - '0'.toNat else c.toNat - 'A'.toNat + 10

def ofHex (s : List Char) : Nat := s.foldl (fun n c => 16 * n + hexValue c) 0

/-- One range of a table: two ends with a hyphen between them, or a single code point. -/
def readRange (s : List Char) : Nat × Nat :=
  let lo := s.takeWhile (· != '-')
  match s.drop lo.length with
  | [] => (ofHex lo, ofHex lo)
  | _ :: hi => (ofHex lo, ofHex hi)

def readRanges (lines : List String) : CharSet :=
  ⟨lines.flatMap fun line => (line.splitOn " ").map fun r => readRange r.toList⟩

/-- The entry of a table under one of its names. -/
def row? (table : List (List String × List String)) (name : String) : Option CharSet :=
  (table.find? fun e => e.1.contains name).map fun e => readRanges e.2

/-- A name in the form of the tables: lower case ASCII without separators and without a
leading `is`, which only the category of other characters needs back. -/
def normalizeName (name : List Char) : String :=
  let rest := match name with
    | a :: b :: rest => if a.toLower = 'i' ∧ b.toLower = 's' then rest else name
    | _ => name
  let kept := (rest.filter fun c => c != ' ' && c != '_' && c != '-' && c.toNat < 0x80).map
    Char.toLower
  if rest.length < name.length ∧ kept = ['c'] then "isc" else String.ofList kept

def unions (sets : List CharSet) : CharSet := sets.foldl CharSet.union .empty

/-- The categories that begin with a letter. -/
def majorCategory (letter : Char) : CharSet :=
  unions ((categoryTable.filter fun e => (e.1.headD "").toList.head? = some letter).map
    fun e => readRanges e.2)

def assigned : CharSet := unions (categoryTable.map fun e => readRanges e.2)

def unassigned : CharSet := assigned.complement CharSet.maxChar

/-- A general category or a group of them. -/
def category? (name : String) : Option CharSet :=
  match name with
  | "any" => some (.range 0 CharSet.maxChar)
  | "ascii" => some (.range 0 0x7F)
  | "assigned" => some assigned
  | "cn" | "unassigned" => some unassigned
  | "cs" | "surrogate" => some .empty
  | "c" | "other" => some ((majorCategory 'c').union unassigned)
  | "l" | "letter" => some (majorCategory 'l')
  | "lc" | "casedletter" => some (unions (["lu", "ll", "lt"].filterMap (row? categoryTable)))
  | "m" | "mark" | "combiningmark" => some (majorCategory 'm')
  | "n" | "number" => some (majorCategory 'n')
  | "p" | "punctuation" | "punct" => some (majorCategory 'p')
  | "s" | "symbol" => some (majorCategory 's')
  | "z" | "separator" => some (majorCategory 'z')
  | name => row? categoryTable name

def script? (name : String) : Option CharSet := row? scriptTable name

def scriptExtensions? (name : String) : Option CharSet :=
  match row? scriptExtensionTable name with
  | some s => some s
  | none => script? name

def property? (name : String) : Option CharSet := row? propertyTable name

/-- A class by a name of its own: a property, a category or a script. -/
def named? (name : List Char) : Option CharSet :=
  let name := normalizeName name
  match property? name with
  | some s => some s
  | none =>
    match category? name with
    | some s => some s
    | none => script? name

/-- A class by the value of a property. -/
def valued? (property value : List Char) : Option CharSet :=
  let value := normalizeName value
  match normalizeName property with
  | "generalcategory" | "gc" => category? value
  | "script" | "sc" => script? value
  | "scriptextensions" | "scx" => scriptExtensions? value
  | _ => none

def digit : CharSet := (category? "nd").getD .empty

/-- The characters of words: letters and their marks, digits, connectors and joiners. -/
def word : CharSet :=
  unions [(property? "alphabetic").getD .empty, majorCategory 'm', digit,
    (category? "pc").getD .empty, (property? "joincontrol").getD .empty]

/-- The groups of characters that differ only in case. -/
def caseGroups : List (List Nat) :=
  caseTable.flatMap fun line =>
    (line.splitOn " ").map fun group => (group.splitOn "=").map fun c => ofHex c.toList

/-- The set with every case of its characters. -/
def foldCase (s : CharSet) : CharSet :=
  let more := caseGroups.flatMap fun group =>
    if group.any s.has then group.map fun c => (c, c) else []
  ⟨s.ranges ++ more⟩

/-- Letters and marks of any script that words are made of. -/
def isAlphabetic (c : Char) : Bool :=
  c.isAlpha || (0x80 ≤ c.toNat && ((property? "alphabetic").getD .empty).mem c)

def isNumeric (c : Char) : Bool :=
  c.isDigit || (0x80 ≤ c.toNat && ((category? "n").getD .empty).mem c)

end ImportWeb.Unicode
