import TableSchema.Log.Verbosity
import TableSchema.Pattern.Meaning

/-!
# Selecting log records

Which records are shown is said by **directives**, each of which gives a verbosity to the records
whose target starts with a name, or to all records.  For a record, the directive with the longest
matching name decides; of two with names of one length, the later.  Directives are written in a
list with commas, to which a pattern may be added that has to occur in messages that are shown.

## Main definitions

* `Directive`, `LogFilter` — directives, and what they are part of.
* `LogFilter.admits` — whether a record is shown.
* `FilterSpec`, `FilterSpec.ofText` — a written list, and its reading.
* `LogFilter.extend` — a filter with a further list of directives.
-/

namespace TableSchema

open Text

/-! ### Filters -/

/-- What gives a verbosity to some of the records. -/
structure Directive where
  /-- How the targets start, or nothing if the directive is about all records. -/
  target : Option String
  /-- What is shown of these records. -/
  verbosity : Verbosity
  deriving DecidableEq, Repr

/-- What decides which records are shown. -/
structure LogFilter where
  /-- The directives, at most one for a target. -/
  directives : List Directive := []
  /-- A pattern that has to occur in messages that are shown. -/
  content : Option Pattern.Expr := none
  deriving DecidableEq, Repr

namespace Directive

/-- The length of the name. -/
def size (d : Directive) : Nat := (d.target.getD "").utf8ByteSize

/-- Whether the directive is about the records of a target. -/
def covers (d : Directive) (target : String) : Bool :=
  match d.target with
  | none => true
  | some name => name.toList.isPrefixOf target.toList

end Directive

namespace LogFilter

/-- The verbosity for the records of a target.  Where no directive is about them, none are shown. -/
def verbosity (f : LogFilter) (target : String) : Verbosity :=
  let ordered := f.directives.mergeSort fun a b => a.size ≤ b.size
  match ordered.reverse.find? fun d => d.covers target with
  | some d => d.verbosity
  | none => .off

/-- Whether a record is shown. -/
def admits (f : LogFilter) (r : LogRecord) : Bool :=
  (f.verbosity r.origin.target).admits r.severity &&
    match f.content with
    | none => true
    | some pattern => pattern.occursIn r.message.toList

/-- Puts a directive in the place of the one for the same target, or behind all others. -/
def insert (d : Directive) : List Directive → List Directive
  | [] => [d]
  | e :: es => if e.target = d.target then d :: es else e :: insert d es

end LogFilter

/-! ### Written lists -/

/-- What a written list of directives says. -/
structure FilterSpec where
  /-- The directives, in order. -/
  directives : List Directive := []
  /-- The pattern that has to occur in messages that are shown. -/
  content : Option Pattern.Expr := none
  /-- What was not understood. -/
  complaints : List String := []
  deriving DecidableEq, Repr

namespace FilterSpec

/-- A directive, or the part that was not understood: a level alone is about all records, and a name
alone is about everything from its target. -/
def readDirective (t : List Char) : Except (List Char) Directive :=
  match splitAt '=' t with
  | [name] =>
    match Verbosity.ofName? name with
    | some v => .ok ⟨none, v⟩
    | none => .ok ⟨some (String.ofList name), .upTo .trace⟩
  | [name, level] =>
    if trim level = [] then .ok ⟨some (String.ofList name), .upTo .trace⟩
    else
      match Verbosity.ofName? (trim level) with
      | some v => .ok ⟨some (String.ofList name), v⟩
      | none => .error (trim level)
  | _ => .error t

/-- The complaint about a part that was not understood. -/
def complaint (t : List Char) : String :=
  "invalid logging spec '" ++ String.ofList t ++ "'"

/-- Adds what one part of the list says. -/
def addPart (s : FilterSpec) (t : List Char) : FilterSpec :=
  if t = [] then s
  else
    match readDirective t with
    | .ok d => { s with directives := s.directives ++ [d] }
    | .error part => { s with complaints := s.complaints ++ [complaint part] }

/-- Reads the directives of a list. -/
def ofList (t : List Char) : FilterSpec :=
  ((splitAt ',' t).map trim).foldl addPart {}

/-- Adds what the pattern of the list says. -/
def addPattern (s : FilterSpec) (t : List Char) : FilterSpec :=
  match Pattern.Expr.ofText t with
  | .ok e => { s with content := some e }
  | .error refusal =>
    { s with complaints := s.complaints ++ ["invalid regex filter - " ++ refusal.message] }

/-- Reads a written list: directives, and perhaps a slash and a pattern behind it. -/
def ofText (t : List Char) : FilterSpec :=
  match splitAt '/' t with
  | [list] => ofList list
  | [list, pattern] => (ofList list).addPattern pattern
  | _ => { complaints := [complaint t ++ " (too many '/'s)"] }

end FilterSpec

/-- The filter with the directives of a further list, which replace those for the same targets. -/
def LogFilter.extend (f : LogFilter) (s : FilterSpec) : LogFilter where
  directives := s.directives.foldl (fun ds d => LogFilter.insert d ds) f.directives
  content := s.content

end TableSchema
