/-!
# Field types

The types a field can have once its SQL type has been resolved.  Each has a name in lower case;
their order is the one in which they are declared here.

## Main definitions

* `FieldType` — the eleven types.
* `FieldType.name`, `FieldType.ofName?` — their names, and the way back.
* `FieldType.sort` — a list of types in order.
-/

namespace TableSchema

/-- The type of a field. -/
inductive FieldType where
  /-- Strings, binary data, identifiers, and whatever is not recognised. -/
  | text
  /-- Short integers. -/
  | short
  /-- Integers. -/
  | integer
  /-- Long integers. -/
  | long
  /-- Numbers of double precision. -/
  | double
  /-- Numbers of single precision. -/
  | float
  /-- Decimal numbers of any precision. -/
  | decimal
  /-- Dates. -/
  | date
  /-- Points in time. -/
  | timestamp
  /-- Times of day. -/
  | time
  /-- Truth values. -/
  | boolean
  deriving DecidableEq, Repr, Inhabited

namespace FieldType

/-- All field types, in order. -/
def all : List FieldType :=
  [.text, .short, .integer, .long, .double, .float, .decimal, .date, .timestamp, .time, .boolean]

/-- The name of a field type. -/
def name : FieldType → String
  | .text => "text"
  | .short => "short"
  | .integer => "integer"
  | .long => "long"
  | .double => "double"
  | .float => "float"
  | .decimal => "decimal"
  | .date => "date"
  | .timestamp => "timestamp"
  | .time => "time"
  | .boolean => "boolean"

/-- The field type of a name, which has to match letter by letter. -/
def ofName? (name : String) : Option FieldType :=
  all.find? fun type => type.name == name

@[simp] theorem ofName?_name (type : FieldType) : ofName? type.name = some type := by
  cases type <;> decide

/-! ### Order -/

/-- The place of a field type in the order. -/
def rank (type : FieldType) : Nat := type.ctorIdx

/-- The types in order, repetitions included. -/
def sort (types : List FieldType) : List FieldType :=
  types.mergeSort fun a b => a.rank ≤ b.rank

end FieldType

end TableSchema
