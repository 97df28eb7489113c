/-!
# TOML tables

A table holds named values in the order in which they were added. A text may come back to a table
later on, and how the table came to be decides what may be added to it then: a table that was only
passed on the way to another one may get a header of its own, one that dotted keys made may get
more dotted keys, and an inline table is complete. No name is given twice.
-/

namespace PatchBay.Toml

/-- What can be wrong with a TOML text. -/
inductive Problem where
  /-- What is written here does not fit in. -/
  | unexpected
  /-- A string that does not end, or holds a character that may not stand in it. -/
  | badString
  /-- A backslash that is not followed by an escape. -/
  | unknownEscape
  /-- A number that is not well formed, or too large. -/
  | badNumber
  /-- A key that is given twice, or added to a table that is complete. -/
  | duplicateKey
  /-- Collections inside one another without end. -/
  | tooDeep
deriving Repr, DecidableEq

/-- The problem as it is told to a person. -/
def Problem.message : Problem → String
  | .unexpected => "unexpected content"
  | .badString => "invalid string"
  | .unknownEscape => "invalid escape sequence"
  | .badNumber => "invalid number"
  | .duplicateKey => "duplicate key"
  | .tooDeep => "recursion limit"

/-- How a table came to be. -/
inductive Origin where
  /-- By a header of its own. -/
  | header
  /-- On the way to the table of a header. -/
  | passed
  /-- On the way to the value of a dotted key. -/
  | dotted
  /-- As a value. -/
  | inlined
deriving Repr, DecidableEq

/-- A value. -/
inductive Value where
  /-- A string. -/
  | text (s : String)
  /-- A whole number. -/
  | int (n : Int)
  /-- Another number. -/
  | float
  /-- A truth value. -/
  | bool (b : Bool)
  /-- A date, a time, or both. -/
  | moment
  /-- An array. -/
  | array (items : List Value)
  /-- A table. -/
  | table (origin : Origin) (entries : List (String × Value))
  /-- An array of tables that have headers. -/
  | tables (elements : List (List (String × Value)))
deriving Repr

/-- A table. -/
structure Table where
  /-- How it came to be. -/
  origin : Origin
  /-- Its values and their names. -/
  entries : List (String × Value) := []
deriving Repr

namespace Table

/-- A table as a value. -/
def toValue (t : Table) : Value := .table t.origin t.entries

/-- Gives a name a value: in its place if it has one, and after all others if not. -/
def put (t : Table) (key : String) (v : Value) : Table :=
  let entries :=
    if (t.entries.lookup key).isSome then
      t.entries.map fun e => if e.1 == key then (key, v) else e
    else t.entries ++ [(key, v)]
  { t with entries }

/-- Changes the table at the end of a path. Missing tables on the way are made. A path leads through
an array of tables by its last element. The path of a dotted key does not lead through a table that
has a header. -/
def update (dotted : Bool) (change : Table → Except Problem Table) :
    List String → Table → Except Problem Table
  | [], t => change t
  | key :: path, t =>
    let within (sub : Table) : Except Problem Table := update dotted change path sub
    let changed : Except Problem Value :=
      match t.entries.lookup key with
      | none => (within { origin := if dotted then .dotted else .passed }).map toValue
      | some (.table origin entries) =>
        if origin == .inlined || (dotted && origin == .header) then .error .duplicateKey
        else (within ⟨origin, entries⟩).map toValue
      | some (.tables elements) =>
        match elements.getLast? with
        | none => .error .duplicateKey
        | some last =>
          (within ⟨.header, last⟩).map fun sub => .tables (elements.dropLast ++ [sub.entries])
      | some _ => .error .duplicateKey
    changed.map (t.put key)

/-- Adds the value of a key, which is the last part of a dotted key with `path` before it. A dotted
key adds only to a table that dotted keys made. -/
def add (path : List String) (key : String) (v : Value) : Table → Except Problem Table :=
  update true (fun t =>
    if (t.origin == .dotted) == path.isEmpty || (t.entries.lookup key).isSome then
      .error .duplicateKey
    else .ok (t.put key v)) path

/-- Opens the table of a header. -/
def openTable (path : List String) (key : String) : Table → Except Problem Table :=
  update false (fun t =>
    match t.entries.lookup key with
    | none => .ok (t.put key (.table .header []))
    | some (.table .passed entries) => .ok (t.put key (.table .header entries))
    | some _ => .error .duplicateKey) path

/-- Adds a table to the array of a header. -/
def appendTable (path : List String) (key : String) : Table → Except Problem Table :=
  update false (fun t =>
    match t.entries.lookup key with
    | none => .ok (t.put key (.tables [[]]))
    | some (.tables elements) => .ok (t.put key (.tables (elements ++ [[]])))
    | some _ => .error .duplicateKey) path

end Table

end PatchBay.Toml
