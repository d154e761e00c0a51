import TableSchema.Toml.Value

/-!
# Trees of TOML tables

The lines of a file say step by step which tables there are and what stands in them.  A table comes
into being in one of three ways, and this decides what later lines may add to it: a table with a
header of its own takes no second header, a table that a dotted key leads through takes no header at
all, and dotted keys lead through no table that has a header.  Values are closed: nothing is added
to an array or a table that was written as one value.

## Main definitions

* `Origin`, `Node`, `Entries` — the tables so far.
* `alter` — changes the entries of the table at a path.
* `addEntry`, `openTable`, `openElement` — what the three kinds of lines do.
* `Node.close`, `closeEntries` — the values of a finished tree.
-/

namespace TableSchema.Toml

/-! ### Trees -/

/-- How a table came into being. -/
inductive Origin where
  /-- By a header of its own; the table of the whole file counts as such. -/
  | header
  /-- By the header of a table inside it, and no dotted key has led through it since. -/
  | passed
  /-- By a dotted key, or one has led through it since. -/
  | dotted
  deriving DecidableEq, Repr

/-- A part of the tree of tables. -/
inductive Node where
  /-- A value, to which nothing can be added. -/
  | value (v : Value)
  /-- A table. -/
  | table (origin : Origin) (entries : List (String × Node))
  /-- An array of tables, of which only the last is still open. -/
  | tables (earlier : List (List (String × Node))) (last : List (String × Node))
  deriving Repr, Inhabited

/-- The entries of an open table. -/
abbrev Entries := List (String × Node)

/-- Puts another node in the place of the one of this name. -/
def replace (name : String) (node : Node) : Entries → Entries
  | [] => []
  | (n, old) :: es => if n = name then (n, node) :: es else (n, old) :: replace name node es

/-! ### Changes -/

/-- Changes the entries of the table at a path, and makes the tables on the path that are missing.
A path of a dotted key leads through no table that has a header, and claims for dotted keys those
that it leads through. -/
def alter (dotted : Bool) (change : Origin → Entries → Option Entries) :
    List String → Origin → Entries → Option Entries
  | [], origin, es => change origin es
  | name :: path, _, es =>
    match es.lookup name with
    | none =>
      let origin := if dotted then Origin.dotted else Origin.passed
      (alter dotted change path origin []).map fun sub => es ++ [(name, .table origin sub)]
    | some (.value _) => none
    | some (.tables earlier last) =>
      (alter dotted change path .header last).map fun last =>
        replace name (.tables earlier last) es
    | some (.table origin sub) =>
      if dotted && origin = .header then none
      else
        let origin := if dotted then Origin.dotted else origin
        (alter dotted change path origin sub).map fun sub => replace name (.table origin sub) es

/-- Adds an entry under a dotted key, which is given by its path and its last part.  A key with a
path adds only to a table made by dotted keys, and a key without one to no such table. -/
def addEntry (path : List String) (name : String) (v : Value) (es : Entries) : Option Entries :=
  alter true
    (fun origin es =>
      if decide (origin = .dotted) = path.isEmpty ∨ (es.lookup name).isSome then none
      else some (es ++ [(name, .value v)]))
    path .header es

/-- Opens the table that a header names. -/
def openTable (path : List String) (name : String) (es : Entries) : Option Entries :=
  alter false
    (fun _ es =>
      match es.lookup name with
      | none => some (es ++ [(name, .table .header [])])
      | some (.table .passed sub) => some (replace name (.table .header sub) es)
      | some _ => none)
    path .header es

/-- Opens a further table in the array of tables that a header names. -/
def openElement (path : List String) (name : String) (es : Entries) : Option Entries :=
  alter false
    (fun _ es =>
      match es.lookup name with
      | none => some (es ++ [(name, .tables [] [])])
      | some (.tables earlier last) => some (replace name (.tables (earlier ++ [last]) []) es)
      | some _ => none)
    path .header es

/-- Adds an entry to the table under the header that was read last. -/
def addUnder (header : List String) (path : List String) (name : String) (v : Value)
    (es : Entries) : Option Entries :=
  alter false (fun _ es => addEntry path name v es) header .header es

/-! ### Finished trees -/

mutual

/-- The value of a finished node. -/
def Node.close : Node → Value
  | .value v => v
  | .table _ es => .table (closeEntries es)
  | .tables earlier last => .array (closeElements earlier ++ [.table (closeEntries last)])

/-- The values of finished entries. -/
def closeEntries : List (String × Node) → List (String × Value)
  | [] => []
  | (name, node) :: es => (name, node.close) :: closeEntries es

/-- The values of the finished tables of an array. -/
def closeElements : List (List (String × Node)) → List Value
  | [] => []
  | es :: rest => .table (closeEntries es) :: closeElements rest

end

end TableSchema.Toml
