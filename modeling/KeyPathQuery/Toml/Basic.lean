import KeyPathQuery.Text

/-!
TOML values. A table remembers how it was opened, since that decides what may be added to it
later: a table written in braces is closed, a table with a header of its own takes no dotted
keys from elsewhere, a table that a longer header implied may still get its own header, and a
table that a dotted key opened takes more dotted keys.

Of numbers with a fraction and of points in time only the kind is kept.
-/

set_option autoImplicit false
set_option relaxedAutoImplicit false

namespace KeyPathQuery

/-- How a table was opened. -/
inductive Toml.Opening where
  /-- Between braces. -/
  | inBraces
  /-- By a header of its own. -/
  | byHeader
  /-- By the header of a table inside it. -/
  | byInnerHeader
  /-- By a dotted key. -/
  | byDottedKey
deriving DecidableEq, Repr

/-- A TOML value. -/
inductive Toml where
  | string (text : Text)
  | integer (value : Int)
  | boolean (value : Bool)
  | float
  | moment
  /-- An array between brackets, which is closed. -/
  | array (items : List Toml)
  /-- The tables of one header between double brackets, to which more may be added. -/
  | tables (members : List (List (Text × Toml)))
  | table (opening : Toml.Opening) (entries : List (Text × Toml))
deriving Repr

namespace Toml

/-- The entries of a table, in order. -/
abbrev Entries := List (Text × Toml)

namespace Entries

/-- The value of a key. -/
def get? (entries : Entries) (key : Text) : Option Toml :=
  (entries.find? (·.1 == key)).map (·.2)

/-- Gives a key its value: at the place of the key if it is there, else at the end. -/
def put (entries : Entries) (key : Text) (value : Toml) : Entries :=
  match entries with
  | [] => [(key, value)]
  | (name, old) :: rest =>
    if name = key then (name, value) :: rest else (name, old) :: put rest key value

/-- Assigns a value to a dotted key. The tables on the way are opened as needed; a closed value,
a table with a header of its own, or a key that has a value already refuses. A table that the
last key goes into must have been opened by a dotted key, unless it is the one that the
assignment stands in. -/
def assign? (entries : Entries) (path : List Text) (value : Toml) : Option Entries :=
  match path with
  | [] => none
  | [key] => if (entries.get? key).isSome then none else some (entries ++ [(key, value)])
  | key :: next :: rest =>
    match entries.get? key with
    | none =>
      (assign? [] (next :: rest) value).map fun inner ↦
        entries.put key (.table .byDottedKey inner)
    | some (.table .byDottedKey inner) =>
      (assign? inner (next :: rest) value).map fun inner ↦
        entries.put key (.table .byDottedKey inner)
    | some (.table .byInnerHeader inner) =>
      if rest.isEmpty then none
      else
        (assign? inner (next :: rest) value).map fun inner ↦
          entries.put key (.table .byInnerHeader inner)
    | some (.tables members) =>
      match members.getLast? with
      | some last =>
        if rest.isEmpty then none
        else
          (assign? last (next :: rest) value).map fun last ↦
            entries.put key (.tables (members.dropLast ++ [last]))
      | none => none
    | some _ => none

/-- Assigns a list of values to dotted keys, one after another. -/
def assignAll? (entries : Entries) (assignments : List (List Text × Toml)) : Option Entries :=
  assignments.foldlM (fun entries (path, value) ↦ entries.assign? path value) entries

/-- Changes the value at the path of a header. The tables on the way are opened as needed; of
the tables of one header the last is meant; a closed value refuses. -/
def changeAt? (entries : Entries) (path : List Text) (change : Option Toml → Option Toml) :
    Option Entries :=
  match path with
  | [] => none
  | [key] => (change (entries.get? key)).map (entries.put key)
  | key :: next :: rest =>
    match entries.get? key with
    | none =>
      (changeAt? [] (next :: rest) change).map fun inner ↦
        entries.put key (.table .byInnerHeader inner)
    | some (.table .inBraces _) => none
    | some (.table opening inner) =>
      (changeAt? inner (next :: rest) change).map fun inner ↦
        entries.put key (.table opening inner)
    | some (.tables members) =>
      match members.getLast? with
      | some last =>
        (changeAt? last (next :: rest) change).map fun last ↦
          entries.put key (.tables (members.dropLast ++ [last]))
      | none => none
    | some _ => none

end Entries

end Toml

end KeyPathQuery
