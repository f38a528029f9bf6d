import KeyPathQuery.Text

/-!
The names that may stand in a query: plain identifiers, column names with an optional table in
front, and segment names of a key path. All three are classes of ASCII texts, told character by
character, and none holds a quotation mark, a space or a semicolon.

Main statements: `isIdentifier_iff`, `isColumnName_iff` and `isSegmentName_iff` spell the three
classes out.
-/

set_option autoImplicit false
set_option relaxedAutoImplicit false

namespace KeyPathQuery

/-- A letter of ASCII or an underscore. -/
def isIdentifierStart (c : Char) : Bool :=
  c.isAlpha || c == '_'

/-- A letter or digit of ASCII or an underscore. -/
def isIdentifierChar (c : Char) : Bool :=
  c.isAlphanum || c == '_'

/-- A character that a segment of a key path may hold. -/
def isSegmentChar (c : Char) : Bool :=
  isIdentifierChar c || c == '-' || c == '$'

/-- A plain identifier: a letter or underscore, then letters, digits and underscores. -/
def isIdentifier : Text → Bool
  | [] => false
  | c :: rest => isIdentifierStart c && rest.all isIdentifierChar

/-- A column name: an identifier, or two of them with a point between. -/
def isColumnName (name : Text) : Bool :=
  match name.cut ['.'] with
  | some (table, column) => isIdentifier table && isIdentifier column
  | none => isIdentifier name

/-- A segment name: one or more letters, digits, underscores, hyphens and dollar signs. -/
def isSegmentName (name : Text) : Bool :=
  !name.isEmpty && name.all isSegmentChar

theorem isIdentifier_iff {name : Text} : isIdentifier name = true ↔
    ∃ c rest, name = c :: rest ∧ isIdentifierStart c = true ∧
      ∀ d ∈ rest, isIdentifierChar d = true := by
  cases name with
  | nil => simp [isIdentifier]
  | cons c rest =>
    simp only [isIdentifier, Bool.and_eq_true, List.all_eq_true]
    constructor
    · rintro ⟨hstart, hrest⟩
      exact ⟨c, rest, rfl, hstart, hrest⟩
    · rintro ⟨_, _, heq, hstart, hrest⟩
      obtain ⟨rfl, rfl⟩ := List.cons.inj heq
      exact ⟨hstart, hrest⟩

theorem isIdentifierChar_of_start {c : Char} (hstart : isIdentifierStart c = true) :
    isIdentifierChar c = true := by
  simp only [isIdentifierStart, isIdentifierChar, Char.isAlphanum, Bool.or_eq_true] at hstart ⊢
  rcases hstart with halpha | hunderscore
  · exact Or.inl (Or.inl halpha)
  · exact Or.inr hunderscore

/-- Every character of an identifier is a letter, a digit or an underscore. -/
theorem isIdentifierChar_of_mem {name : Text} (hname : isIdentifier name = true) {c : Char}
    (hmem : c ∈ name) : isIdentifierChar c = true := by
  obtain ⟨first, rest, rfl, hfirst, hrest⟩ := isIdentifier_iff.mp hname
  rcases List.mem_cons.mp hmem with rfl | hin
  · exact isIdentifierChar_of_start hfirst
  · exact hrest c hin

theorem isIdentifierChar_point : isIdentifierChar '.' = false := by decide

theorem isSegmentName_iff {name : Text} :
    isSegmentName name = true ↔ name ≠ [] ∧ ∀ c ∈ name, isSegmentChar c = true := by
  simp [isSegmentName]

/-- A segment name holds no character that segments may not hold. -/
theorem notMem_of_isSegmentName {name : Text} (hname : isSegmentName name = true) {c : Char}
    (hc : isSegmentChar c = false) : c ∉ name := fun hmem ↦
  Bool.false_ne_true (hc.symm.trans ((isSegmentName_iff.mp hname).2 c hmem))

/-- An identifier holds no character that identifiers may not hold. -/
theorem notMem_of_isIdentifier {name : Text} (hname : isIdentifier name = true) {c : Char}
    (hc : isIdentifierChar c = false) : c ∉ name := fun hmem ↦
  Bool.false_ne_true (hc.symm.trans (isIdentifierChar_of_mem hname hmem))

/-- No point stands in an identifier. -/
theorem point_notMem_identifier {name : Text} (hname : isIdentifier name = true) : '.' ∉ name :=
  notMem_of_isIdentifier hname isIdentifierChar_point

/-- An identifier is not cut, since no point stands in it. -/
theorem cut_point_identifier {name : Text} (hname : isIdentifier name = true) :
    name.cut ['.'] = none := by
  cases hcut : name.cut ['.'] with
  | none => rfl
  | some parts =>
    obtain ⟨before, after⟩ := parts
    exact absurd (by rw [Text.cut_eq_some hcut]; simp) (point_notMem_identifier hname)

/-- The point between two identifiers is the first one. -/
theorem cut_point_qualified {table column : Text} (htable : isIdentifier table = true) :
    Text.cut (table ++ '.' :: column) ['.'] = some (table, column) :=
  Text.cut_append_cons (point_notMem_identifier htable) column

theorem isColumnName_iff {name : Text} : isColumnName name = true ↔
    isIdentifier name = true ∨ ∃ table column, name = table ++ '.' :: column ∧
      isIdentifier table = true ∧ isIdentifier column = true := by
  constructor
  · intro hname
    simp only [isColumnName] at hname
    split at hname
    · next table column hcut =>
      simp only [Bool.and_eq_true] at hname
      exact Or.inr ⟨table, column, by simpa using Text.cut_eq_some hcut, hname.1, hname.2⟩
    · exact Or.inl hname
  · rintro (hname | ⟨table, column, rfl, htable, hcolumn⟩)
    · simp [isColumnName, cut_point_identifier hname, hname]
    · simp [isColumnName, cut_point_qualified htable, htable, hcolumn]

end KeyPathQuery
