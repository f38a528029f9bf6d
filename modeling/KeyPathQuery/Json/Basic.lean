import KeyPathQuery.Json.Number

/-!
JSON values. An object is the list of its fields in their order; `Fields.insert` keeps a field
that is already there at its place and gives it the new value, so a list built by insertion
holds every key once, in the order of first use.

Main statements: `Fields.get?_insert` says what a look-up finds after an insertion, and
`Fields.keys_insert` that an insertion adds a key at the end or leaves the keys alone.
-/

set_option autoImplicit false
set_option relaxedAutoImplicit false

namespace KeyPathQuery

/-- A JSON value. -/
inductive Json where
  | null
  | boolean (value : Bool)
  | number (value : Json.Number)
  | string (value : Text)
  | array (items : List Json)
  | object (fields : List (Text × Json))
deriving Repr, Inhabited

namespace Json

/-- The fields of an object, in order. -/
abbrev Fields := List (Text × Json)

/-- A whole number as a JSON value. -/
def integer (value : Int) : Json :=
  .number (.integer value)

namespace Fields

/-- Gives a key its value: at the place of the key if it is there, else at the end. -/
def insert (fields : Fields) (key : Text) (value : Json) : Fields :=
  match fields with
  | [] => [(key, value)]
  | (name, old) :: rest =>
    if name = key then (name, value) :: rest else (name, old) :: insert rest key value

/-- The fields that result from inserting a list of pairs one after another. -/
def ofPairs (pairs : List (Text × Json)) : Fields :=
  pairs.foldl (fun fields (key, value) ↦ fields.insert key value) []

/-- The value of a key. -/
def get? (fields : Fields) (key : Text) : Option Json :=
  (fields.find? (·.1 == key)).map (·.2)

/-- The keys in order. -/
def keys (fields : Fields) : List Text :=
  fields.map (·.1)

theorem get?_insert (fields : Fields) (key other : Text) (value : Json) :
    (fields.insert key value).get? other =
      if key = other then some value else fields.get? other := by
  induction fields with
  | nil => by_cases h : key = other <;> simp [insert, get?, h]
  | cons field rest ih =>
    obtain ⟨name, old⟩ := field
    simp only [insert]
    by_cases hname : name = key
    · subst hname
      by_cases h : name = other <;> simp [get?, h]
    · by_cases hother : name = other
      · subst hother
        simp [get?, hname, Ne.symm hname]
      · have hrest : get? ((name, old) :: insert rest key value) other =
            (insert rest key value).get? other := by
          simp [get?, hother]
        have hold : get? ((name, old) :: rest) other = get? rest other := by
          simp [get?, hother]
        rw [if_neg hname, hrest, hold, ih]

@[simp] theorem keys_nil : keys [] = [] := rfl

@[simp] theorem keys_cons (key : Text) (value : Json) (rest : Fields) :
    keys ((key, value) :: rest) = key :: rest.keys := rfl

theorem keys_insert (fields : Fields) (key : Text) (value : Json) :
    (fields.insert key value).keys =
      if key ∈ fields.keys then fields.keys else fields.keys ++ [key] := by
  induction fields with
  | nil => simp [insert]
  | cons field rest ih =>
    obtain ⟨name, old⟩ := field
    by_cases hname : name = key
    · simp [insert, hname]
    · by_cases hmem : key ∈ keys rest
      · simp [insert, hname, ih, hmem]
      · simp [insert, hname, Ne.symm hname, ih, hmem]

end Fields

end Json

end KeyPathQuery
