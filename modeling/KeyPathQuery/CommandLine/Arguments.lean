import KeyPathQuery.CommandLine.Occurrence
import KeyPathQuery.Json.Reader
import KeyPathQuery.Operation
import KeyPathQuery.Text.Blank

/-!
What the arguments of the command line ask for: a connection, a table, a configuration, the
operations on the query, and the form of the answer. Operations of one kind keep their order;
the kinds come in a fixed order, wherever they stand among the arguments.
-/

set_option autoImplicit false
set_option relaxedAutoImplicit false

namespace KeyPathQuery.CommandLine

/-- What the arguments ask for. -/
structure Arguments where
  /-- The driver name or connection URL. -/
  driver : Text
  table : Text
  /-- The path of a configuration. -/
  config : Option Text
  operations : List Operation
  /-- Whether values are written into the SQL. -/
  inline : Bool
  /-- Whether the SQL is checked before it is written. -/
  check : Bool
deriving Repr

namespace Arguments

/-- The table of a query that names none. -/
def standardTable : Text := "users".toList

/-- The value that a text stands for: a JSON value that is no array and no object, and otherwise
the text itself. -/
def valueOf (text : Text) : Json :=
  match Json.parse? text with
  | some (.array _) => .string text
  | some (.object _) => .string text
  | some value => value
  | none => .string text

/-- The values that a text lists with commas between them; blank ones do not count. -/
def valuesOf (text : Text) : List Json :=
  (((text.split ',').map Text.trim).filter (!·.isEmpty)).map valueOf

/-- The path and the direction of an ordering: what stands before and after the last colon, and
ascending if there is none. -/
def orderingOf (text : Text) : Text × Text :=
  (text.cutLast ':').getD (text, "asc".toList)

/-- The operation of an occurrence, if its option names one. -/
def operationOf? (occurrence : Occurrence) : Option Operation :=
  match occurrence.setting, occurrence.values with
  | .select, [selection] => some (.select selection)
  | .filter, [path, operator, value] => some (.filter path operator (valueOf value))
  | .whereIn, [path, values] => some (.whereIn path (valuesOf values))
  | .contains, [path, search] => some (.contains path search)
  | .present, [path] => some (.present path)
  | .orderBy, [ordering] => some (.orderBy (orderingOf ordering).1 (orderingOf ordering).2)
  | _, _ => none

/-- The options that name operations, in the order in which they run. -/
def operationSettings : List Setting :=
  [.select, .filter, .whereIn, .contains, .present, .orderBy]

/-- The operations of some occurrences in the order in which they run. -/
def operationsOf (occurrences : List Occurrence) : List Operation :=
  operationSettings.flatMap fun setting ↦
    (occurrences.filter (·.setting == setting)).filterMap operationOf?

/-- The value of an option that occurs once. -/
def valueOf? (occurrences : List Occurrence) (setting : Setting) : Option Text :=
  (occurrences.find? (·.setting == setting)).bind (·.values.head?)

/-- Whether an option occurs. -/
def occurs (occurrences : List Occurrence) (setting : Setting) : Bool :=
  occurrences.any (·.setting == setting)

/-- What occurrences ask for; the driver must be among them. -/
def ofOccurrences? (occurrences : List Occurrence) : Option Arguments :=
  (valueOf? occurrences .driver).map fun driver ↦
    { driver := driver
      table := (valueOf? occurrences .table).getD standardTable
      config := valueOf? occurrences .config
      operations := operationsOf occurrences
      inline := occurs occurrences .inline
      check := occurs occurrences .check }

/-- What a list of arguments asks for. -/
def read (arguments : List Text) : Except Ending Arguments :=
  match Occurrence.readFrom [] arguments with
  | .error ending => .error ending
  | .ok occurrences =>
    match ofOccurrences? occurrences with
    | some read => .ok read
    | none => .error .misuse

end Arguments

end KeyPathQuery.CommandLine
