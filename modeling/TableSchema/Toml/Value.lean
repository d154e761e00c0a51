/-!
# TOML values

Values of the TOML data format, as far as this library tells them apart.  Numbers with a fraction or
an exponent, and dates and times, may stand in a file, but their values play no part.

## Main definitions

* `Value` — TOML values.
* `Value.get?` — an entry of a table.
-/

namespace TableSchema.Toml

/-- A TOML value. -/
inductive Value where
  /-- A string. -/
  | string (text : String)
  /-- A whole number. -/
  | integer (value : Int)
  /-- A number with a fraction or an exponent, or one that is not finite. -/
  | float
  /-- A truth value. -/
  | boolean (value : Bool)
  /-- A date, a time of day, or both. -/
  | moment
  /-- An array. -/
  | array (items : List Value)
  /-- A table: its entries, each name once. -/
  | table (entries : List (String × Value))
  deriving Repr, Inhabited

/-- The entry of this name. -/
def entry? (name : String) (entries : List (String × Value)) : Option Value :=
  entries.lookup name

end TableSchema.Toml
