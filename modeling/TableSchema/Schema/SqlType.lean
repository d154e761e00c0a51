import TableSchema.Fault
import TableSchema.Schema.FieldType

/-!
# Names of SQL types

The type names of several SQL dialects, each with the field type it stands for.  Names are compared
letter by letter, in capitals.  Arguments in brackets, as in `DECIMAL(10,2)`, play no part.

## Main definitions

* `SqlType.known` — the listed names, with their field types.
* `SqlType.base` — a type without its arguments.
* `SqlType.lookup` — the field type of a listed name.
* `SqlType.resolve` — the same with `text` for every other name.
* `SqlType.resolveStrictly` — the same with a refusal of every other name.
* `SqlType.overview` — the list in print, one line for each field type.
-/

namespace TableSchema.SqlType

/-! ### The list -/

/-- The listed names.  A name of several words never stands in a column clause, whose type ends at
the first blank, but may be looked up. -/
def known : List (String × FieldType) :=
  [("VARCHAR2", .text),
   ("NVARCHAR2", .text),
   ("NCHAR VARYING", .text),
   ("VARCHAR", .text),
   ("CHAR", .text),
   ("NCHAR", .text),
   ("NVARCHAR", .text),
   ("SYSNAME", .text),
   ("CLOB", .text),
   ("RAW", .text),
   ("MONEY", .text),
   ("SMALLMONEY", .text),
   ("TEXT", .text),
   ("NTEXT", .text),
   ("GRAPHIC", .text),
   ("VARGRAPHIC", .text),
   ("VARG", .text),
   ("VARBINARY", .text),
   ("VARBIN", .text),
   ("CHARACTER", .text),
   ("UNIQUEIDENTIFIER", .text),
   ("DECFLOAT", .text),
   ("LONG", .text),
   ("TINYINT", .short),
   ("SMALLINT", .short),
   ("INT", .integer),
   ("INTEGER", .integer),
   ("BIGINT", .long),
   ("NUMBER", .double),
   ("DOUBLE", .double),
   ("DOUBLE PRECISION", .double),
   ("REAL", .float),
   ("FLOAT", .float),
   ("NUMERIC", .decimal),
   ("DECIMAL", .decimal),
   ("DATE", .date),
   ("DATETIME", .date),
   ("TIMESTAMP", .timestamp),
   ("TIMESTAMP WITH TIME ZONE", .timestamp),
   ("TIMESTAMP WITH LOCAL TIME ZONE", .timestamp),
   ("TIMESTMP", .timestamp),
   ("TIMESTZ", .timestamp),
   ("TIME", .time),
   ("TIME WITH TIME ZONE", .time),
   ("BOOLEAN", .boolean)]

/-! ### Looking names up -/

/-- The type without its arguments: everything before the first opening bracket. -/
def base (name : List Char) : List Char :=
  name.takeWhile (· ≠ '(')

/-- The field type of a listed name, arguments aside. -/
def lookup (name : List Char) : Option FieldType :=
  known.lookup (String.ofList (base name))

/-- The field type of a listed name, and `text` for any other. -/
def resolve (name : List Char) : FieldType :=
  (lookup name).getD .text

/-- The field type of a listed name.  Any other is refused as it stands, with its arguments. -/
def resolveStrictly (name : List Char) : Except Fault FieldType :=
  match lookup name with
  | some type => .ok type
  | none => .error (.unknownType (String.ofList name))

@[simp] theorem base_nil : base [] = [] := rfl

/-- What follows an opening bracket plays no part. -/
theorem base_append_bracket (name arguments : List Char) :
    base (name ++ '(' :: arguments) = base name := by
  induction name with
  | nil => simp [base]
  | cons c name ih =>
    by_cases h : c = '('
    · simp [base, h]
    · simpa [base, h] using ih

/-! ### The list in print -/

/-- The listed names of a field type, in the order of the list. -/
def namesOf (type : FieldType) : List String :=
  (known.filter fun entry => entry.2 == type).map Prod.fst

/-- The list in print: a line for each field type, then one for all other names. -/
def overview : String :=
  String.join (FieldType.all.map fun type =>
    type.name ++ ": " ++ ", ".intercalate (namesOf type) ++ "\n") ++
  "(unrecognized types map to text)\n"

end TableSchema.SqlType
