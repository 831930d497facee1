import ImportWeb.Double

/-!
TOML documents. While a document is read, a table remembers how it came about: a table is
implicit as long as only paths through it have been seen, and dotted if a dotted key made it.
These decide what may still be added.
-/

namespace ImportWeb.Toml

inductive Value where
  | string (s : String)
  | integer (n : Int)
  | float (x : Double)
  | boolean (b : Bool)
  | datetime
  | array (items : List Value)
  | table (fields : List (String × Value))
  deriving Repr, Inhabited

inductive Item where
  | value (v : Value)
  | tables (ts : List (List (String × Item)))
  | table (implicit dotted : Bool) (fields : List (String × Item))
  deriving Repr, Inhabited

/-- The fields of a table in the order in which they came. -/
abbrev Fields := List (String × Item)

structure Table where
  implicit : Bool
  dotted : Bool
  fields : Fields
  deriving Repr, Inhabited

namespace Fields

def item? (key : String) (fields : Fields) : Option Item :=
  (List.find? (fun f => f.1 = key) fields).map (·.2)

/-- Puts an item under a key, in the place of the one before or at the end. -/
def set (key : String) (item : Item) : Fields → Fields
  | [] => [(key, item)]
  | f :: rest => if f.1 = key then (key, item) :: rest else f :: set key item rest

end Fields

namespace Table

def root : Table := ⟨false, false, []⟩

def item (t : Table) : Item := .table t.implicit t.dotted t.fields

def put (t : Table) (key : String) (item : Item) : Table :=
  { t with fields := Fields.set key item t.fields }

/-- Changes the table at the end of a path. Missing tables on the way are made; a path goes
through the last table of an array of tables, but not through a value, and a dotted key not
through a table that stands on its own. -/
def within (dotted : Bool) (change : Table → Option Table) : List String → Table → Option Table
  | [], t => change t
  | key :: rest, t =>
    match Fields.item? key t.fields with
    | none => do
      let child ← within dotted change rest ⟨true, dotted, []⟩
      return t.put key child.item
    | some (.value _) => none
    | some (.tables ts) => do
      let last ← ts.getLast?
      let child ← within dotted change rest ⟨false, false, last⟩
      return t.put key (.tables (ts.dropLast ++ [child.fields]))
    | some (.table implicit isDotted fields) =>
      if dotted && ! implicit then none
      else do
        let child ← within dotted change rest ⟨implicit, isDotted, fields⟩
        return t.put key child.item

/-- Adds a value under a key that is new. -/
def addValue (path : List String) (v : Value) (t : Table) : Option Table := do
  let key ← path.getLast?
  let above := path.dropLast
  within true (fun t =>
    if t.dotted = above.isEmpty then none
    else if (Fields.item? key t.fields).isSome then none
    else some (t.put key (.value v))) above t

/-- Opens the table of a header, which must be new or known by paths only. -/
def openTable (path : List String) (t : Table) : Option Table := do
  let key ← path.getLast?
  within false (fun t =>
    match Fields.item? key t.fields with
    | none => some (t.put key (.table false false []))
    | some (.table true false fields) => some (t.put key (.table false false fields))
    | _ => none) path.dropLast t

/-- Opens a new table at the end of an array of tables. -/
def openElement (path : List String) (t : Table) : Option Table := do
  let key ← path.getLast?
  within false (fun t =>
    match Fields.item? key t.fields with
    | none => some (t.put key (.tables [[]]))
    | some (.tables ts) => some (t.put key (.tables (ts ++ [[]])))
    | _ => none) path.dropLast t

end Table

mutual

def Item.toValue : Item → Value
  | .value v => v
  | .tables ts => .array (tablesToValues ts)
  | .table _ _ fields => .table (fieldsToValues fields)

def tablesToValues : List (List (String × Item)) → List Value
  | [] => []
  | fields :: rest => .table (fieldsToValues fields) :: tablesToValues rest

def fieldsToValues : List (String × Item) → List (String × Value)
  | [] => []
  | (key, item) :: rest => (key, item.toValue) :: fieldsToValues rest

end

end ImportWeb.Toml
