/-!
# What can go wrong

Every refusal of the library is a value that says what was found; its wording is given here, once.

## Main definitions

* `Malformation` — why a statement could not be read.
* `Invalidity` — why a draft is no table.
* `Misconfiguration` — why a setting was refused.
* `ReadFault` — why a file could not be read.
* `Fault` — any of these, an unsupported key or an unknown type.
* `Topic` — the headings under which faults are reported.
-/

namespace TableSchema

/-! ### Statements -/

/-- Why a statement could not be read. -/
inductive Malformation where
  /-- The text goes on with `found` where `literal` was required. -/
  | expected (literal found : String)
  /-- No closing bracket brings the count back to zero in the text that starts with `found`. -/
  | unbalanced (opening closing : Char) (found : String)
  /-- In front of the closing bracket that is found stands no opening one. -/
  | unopened (opening closing : Char)
  /-- `CREATE TABLE` is followed by no name. -/
  | missingTableName
  /-- The text behind the table's name holds no balanced pair of round brackets. -/
  | unbalancedBody (table found : String)
  /-- Behind the table's name, a closing bracket is found without an opening one in front. -/
  | unopenedBody (table : String)
  /-- A clause of the table is blank. -/
  | emptyClause (table : String)
  /-- The table's primary key has a blank among its columns. -/
  | emptyKeyColumn (table : String)
  deriving DecidableEq, Repr

/-- The wording of a malformation. -/
def Malformation.message : Malformation → String
  | .expected literal found => s!"expected '{literal}' at '{found}'"
  | .unbalanced opening closing found =>
    s!"no balanced '{opening}'...'{closing}' pair in '{found}'"
  | .unopened opening closing => s!"missing '{opening}' before '{closing}'"
  | .missingTableName => "missing table name after CREATE TABLE"
  | .unbalancedBody table found =>
    s!"table '{table}': no balanced '('...')' pair in '{found}'"
  | .unopenedBody table => s!"table '{table}': missing '(' before ')'"
  | .emptyClause table => s!"empty column clause in table '{table}'"
  | .emptyKeyColumn table => s!"empty column name in primary key of table '{table}'"

/-! ### Drafts -/

/-- Why a draft is no table. -/
inductive Invalidity where
  /-- The draft has no name. -/
  | emptyTypeName
  /-- A field has the name of an earlier one. -/
  | duplicateField (field type : String)
  /-- The primary key names no field. -/
  | strayKey (key type : String)
  deriving DecidableEq, Repr

/-- The wording of an invalidity. -/
def Invalidity.message : Invalidity → String
  | .emptyTypeName => "type name cannot be empty"
  | .duplicateField field type => s!"duplicate field '{field}' in type '{type}'"
  | .strayKey key type => s!"primary key '{key}' is not a field of type '{type}'"

/-! ### Settings -/

/-- Why a setting was refused. -/
inductive Misconfiguration where
  /-- The variable for the abbreviation length holds no length. -/
  | badLength (text : String)
  /-- The variable for strict types holds no truth value. -/
  | badStrictness (text : String)
  /-- No output format has this name. -/
  | unknownFormat (name : String)
  /-- The abbreviation length is zero. -/
  | zeroLength
  /-- No log level has this name. -/
  | unknownLevel (name : String)
  /-- The settings file is not well formed, or gives a setting a value of the wrong kind. -/
  | badFile
  /-- A key of the settings file has too many parts. -/
  | deepKey
  deriving DecidableEq, Repr

/-- The wording of a misconfiguration. -/
def Misconfiguration.message : Misconfiguration → String
  | .badLength text => s!"invalid DDLSCHEMA_ABBREVIATION_LENGTH '{text}'"
  | .badStrictness text => s!"invalid DDLSCHEMA_STRICT_TYPES '{text}'"
  | .unknownFormat name => s!"unknown output format '{name}'"
  | .zeroLength => "abbreviation length must be greater than 0"
  | .unknownLevel name => s!"unknown log level '{name}'"
  | .badFile => "TOML parse error"
  | .deepKey => "recursion limit\n"

/-! ### Files -/

/-- Why a file could not be read as text. -/
inductive ReadFault where
  /-- Nothing has this name. -/
  | notFound
  /-- A folder has this name. -/
  | isFolder
  /-- The path leads through something that is no folder. -/
  | notFolder
  /-- The bytes are not UTF-8. -/
  | notText
  deriving DecidableEq, Repr

/-- The wording of a read fault, in the words of the operating system where it is the one to
refuse. -/
def ReadFault.message : ReadFault → String
  | .notFound => "No such file or directory (os error 2)"
  | .isFolder => "Is a directory (os error 21)"
  | .notFolder => "Not a directory (os error 20)"
  | .notText => "stream did not contain valid UTF-8"

/-! ### All faults -/

/-- The headings under which faults are reported. -/
inductive Topic where
  /-- Reading files. -/
  | reading
  /-- The form of statements. -/
  | statements
  /-- The consistency of drafts. -/
  | drafts
  /-- Settings. -/
  | settings
  deriving DecidableEq, Repr

/-- A detail under its heading. -/
def Topic.announce : Topic → (detail : String) → String
  | .reading, detail => "I/O error: " ++ detail
  | .statements, detail => "Malformed statement: " ++ detail
  | .drafts, detail => "Validation error: " ++ detail
  | .settings, detail => "Configuration error: " ++ detail

/-- Anything that stops the library from giving an answer. -/
inductive Fault where
  /-- A file could not be read. -/
  | unreadable (cause : ReadFault)
  /-- A statement could not be read. -/
  | malformed (cause : Malformation)
  /-- The table's primary key has several columns, or is declared more than once. -/
  | unsupportedKey (table : String) (columns : List String)
  /-- The column type is not listed, and only listed ones are accepted. -/
  | unknownType (name : String)
  /-- A draft is no table. -/
  | invalid (cause : Invalidity)
  /-- A setting was refused. -/
  | misconfigured (cause : Misconfiguration)
  deriving DecidableEq, Repr

/-- The wording of a fault. -/
def Fault.message : Fault → String
  | .unreadable cause => Topic.reading.announce cause.message
  | .malformed cause => Topic.statements.announce cause.message
  | .unsupportedKey table columns =>
    s!"Unsupported primary key for table '{table}': [" ++ ", ".intercalate columns ++ "]"
  | .unknownType name => s!"Unknown SQL type: '{name}'"
  | .invalid cause => Topic.drafts.announce cause.message
  | .misconfigured cause => Topic.settings.announce cause.message

/-- The wordings of a fault and of what is behind it, the outermost first.  Only a file that could
not be read has a cause of its own. -/
def Fault.chain : Fault → List String
  | .unreadable cause => [Fault.message (.unreadable cause), cause.message]
  | fault => [fault.message]

end TableSchema
