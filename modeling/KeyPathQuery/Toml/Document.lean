import KeyPathQuery.Toml.Statement

/-!
The table that a TOML text describes. The text is cut into sections, each a header with the
assignments that follow it; the assignments before the first header go into the table itself.
A header opens a table that is not there yet, or one that only headers of tables inside it have
opened; a header of several adds a table to those of the same header. A section whose header or
whose assignments do not fit has no table.
-/

set_option autoImplicit false
set_option relaxedAutoImplicit false

namespace KeyPathQuery.Toml

/-- The heading of a section. -/
inductive Heading where
  | single (path : List Text)
  | several (path : List Text)
deriving Repr

/-- A header with the assignments that follow it. -/
structure Section where
  heading : Heading
  assignments : List (List Text × Toml)
deriving Repr

/-- The assignments before the first header, and the sections. -/
def sectionsOf : List Statement → List (List Text × Toml) × List Section
  | [] => ([], [])
  | .assignment path value :: rest =>
    let (assignments, sections) := sectionsOf rest
    ((path, value) :: assignments, sections)
  | .header path :: rest =>
    let (assignments, sections) := sectionsOf rest
    ([], ⟨.single path, assignments⟩ :: sections)
  | .headerOfSeveral path :: rest =>
    let (assignments, sections) := sectionsOf rest
    ([], ⟨.several path, assignments⟩ :: sections)

/-- Adds a section to the table of a document. -/
def addSection? (entries : Entries) (part : Section) : Option Entries :=
  match part.heading with
  | .single path =>
    entries.changeAt? path fun
      | none => (Entries.assignAll? [] part.assignments).map (.table .byHeader)
      | some (.table .byInnerHeader inner) =>
        (Entries.assignAll? inner part.assignments).map (.table .byHeader)
      | some _ => none
  | .several path =>
    entries.changeAt? path fun
      | none => (Entries.assignAll? [] part.assignments).map fun member ↦ .tables [member]
      | some (.tables members) =>
        (Entries.assignAll? [] part.assignments).map fun member ↦ .tables (members ++ [member])
      | some _ => none

/-- The table that statements describe. -/
def tableOf? (statements : List Statement) : Option Entries := do
  let (assignments, sections) := sectionsOf statements
  let start ← Entries.assignAll? [] assignments
  sections.foldlM addSection? start

/-- The table that a text describes. -/
def parse? (text : Text) : Option Entries := do
  let statements ← statementsOf? text
  tableOf? statements

end KeyPathQuery.Toml
