import KeyPathQuery.FilterError
import Mathlib.Computability.Language
import Mathlib.Data.Char
import Mathlib.Order.Interval.Set.Defs

/-!
The texts of key paths, as a regular language. A key path is a column name and then the delimiter
and a segment name, any number of times. The delimiter shares its first character with segments,
its second one with neither column names nor segments, so the places where a text is cut are
those of the second character, and a text of the language is cut in one way only.

`pieces_append_flatMap` cuts a text that was put together, `append_flatMap_pieces` puts a text
together that was cut. Between them a text spells one path and a path has one text
(`parse_eq_ok_iff`).

Main statement: `parse_eq_ok_iff_grammar`.
-/

set_option autoImplicit false
set_option relaxedAutoImplicit false

namespace KeyPathQuery

open scoped Computability

/-! ### The languages of names -/

/-- The letters of ASCII. -/
def asciiLetters : Set Char := Set.Icc 'A' 'Z' ∪ Set.Icc 'a' 'z'

/-- The digits of ASCII. -/
def asciiDigits : Set Char := Set.Icc '0' '9'

/-- The texts of one character out of a class. -/
def oneOf (chars : Set Char) : Language Char := {text | ∃ c ∈ chars, text = [c]}

/-- The identifiers: `[A-Za-z_][A-Za-z0-9_]*`. -/
def identifiers : Language Char :=
  oneOf (asciiLetters ∪ {'_'}) * (oneOf (asciiLetters ∪ asciiDigits ∪ {'_'}))∗

/-- The column names: an identifier, and perhaps a point and an identifier. -/
def columnNames : Language Char :=
  identifiers * (1 + oneOf {'.'} * identifiers)

/-- The segment names: one or more letters, digits, underscores, hyphens and dollar signs. -/
def segmentNames : Language Char :=
  {name | name ≠ [] ∧ ∀ c ∈ name, c ∈ asciiLetters ∪ asciiDigits ∪ {'_', '-', '$'}}

theorem mem_kstar_oneOf_iff {chars : Set Char} {text : Text} :
    text ∈ (oneOf chars)∗ ↔ ∀ c ∈ text, c ∈ chars := by
  rw [Language.mem_kstar]
  constructor
  · rintro ⟨texts, rfl, htexts⟩ c hmem
    obtain ⟨part, hpart, hin⟩ := List.mem_flatten.mp hmem
    obtain ⟨d, hd, rfl⟩ := htexts part hpart
    rwa [List.mem_singleton.mp hin]
  · intro hchars
    refine ⟨text.map ([·]), ?_, List.forall_mem_map.mpr fun c hmem ↦ ⟨c, hchars c hmem, rfl⟩⟩
    rw [← List.flatMap_def, List.flatMap_singleton']

theorem mem_oneOf_mul_iff {chars : Set Char} {language : Language Char} {text : Text} :
    text ∈ oneOf chars * language ↔ ∃ c ∈ chars, ∃ rest ∈ language, text = c :: rest := by
  rw [Language.mem_mul]
  constructor
  · rintro ⟨_, ⟨c, hc, rfl⟩, rest, hrest, rfl⟩
    exact ⟨c, hc, rest, hrest, rfl⟩
  · rintro ⟨c, hc, rest, hrest, rfl⟩
    exact ⟨[c], ⟨c, hc, rfl⟩, rest, hrest, rfl⟩

/-! ### The checks decide the languages -/

theorem isAlpha_iff {c : Char} : c.isAlpha = true ↔ c ∈ asciiLetters := by
  change (decide ('A' ≤ c ∧ c ≤ 'Z') || (decide ('a' ≤ c) && decide (c ≤ 'z'))) = true ↔ _
  simp [asciiLetters]

theorem isDigit_iff {c : Char} : c.isDigit = true ↔ c ∈ asciiDigits := by
  change (decide ('0' ≤ c) && decide (c ≤ '9')) = true ↔ _
  simp [asciiDigits]

theorem isIdentifierStart_iff {c : Char} :
    isIdentifierStart c = true ↔ c ∈ asciiLetters ∪ {'_'} := by
  simp [isIdentifierStart, isAlpha_iff, or_comm]

theorem isIdentifierChar_iff {c : Char} :
    isIdentifierChar c = true ↔ c ∈ asciiLetters ∪ asciiDigits ∪ {'_'} := by
  simp [isIdentifierChar, Char.isAlphanum, isAlpha_iff, isDigit_iff, or_comm]

theorem isSegmentChar_iff {c : Char} :
    isSegmentChar c = true ↔ c ∈ asciiLetters ∪ asciiDigits ∪ {'_', '-', '$'} := by
  simp only [isSegmentChar, isIdentifierChar_iff, Bool.or_eq_true, beq_iff_eq, Set.mem_union,
    Set.mem_insert_iff, Set.mem_singleton_iff]
  tauto

theorem isIdentifier_iff_mem {name : Text} : isIdentifier name = true ↔ name ∈ identifiers := by
  simp only [isIdentifier_iff, identifiers, mem_oneOf_mul_iff, mem_kstar_oneOf_iff,
    isIdentifierStart_iff, isIdentifierChar_iff]
  constructor
  · rintro ⟨c, rest, rfl, hstart, hrest⟩
    exact ⟨c, hstart, rest, hrest, rfl⟩
  · rintro ⟨c, hstart, rest, hrest, rfl⟩
    exact ⟨c, rest, rfl, hstart, hrest⟩

theorem isColumnName_iff_mem {name : Text} : isColumnName name = true ↔ name ∈ columnNames := by
  simp only [isColumnName_iff, isIdentifier_iff_mem, columnNames, mul_add, mul_one,
    Language.mem_add, Language.mem_mul (m := oneOf {'.'} * identifiers), mem_oneOf_mul_iff]
  refine or_congr_right ⟨?_, ?_⟩
  · rintro ⟨table, column, rfl, htable, hcolumn⟩
    exact ⟨table, htable, '.' :: column, ⟨'.', rfl, column, hcolumn, rfl⟩, rfl⟩
  · rintro ⟨table, htable, _, ⟨_, rfl, column, hcolumn, rfl⟩, rfl⟩
    exact ⟨table, column, rfl, htable, hcolumn⟩

theorem isSegmentName_iff_mem {name : Text} : isSegmentName name = true ↔ name ∈ segmentNames := by
  simp only [isSegmentName_iff, isSegmentChar_iff]
  rfl

/-! ### Cutting and putting together -/

namespace KeyPath

/-- A text is its first piece and the others, each behind a delimiter. -/
theorem append_flatMap_pieces (text : Text) :
    (pieces text).1 ++ (pieces text).2.flatMap (delimiter ++ ·) = text := by
  fun_induction pieces text with
  | case1 => rfl
  | case2 rest first others heq ih => simpa [heq, delimiter] using ih
  | case3 c rest hdelimiter first others heq ih => simpa [heq] using ih

theorem pieces_delimiter_append (rest : Text) :
    pieces (delimiter ++ rest) = ([], (pieces rest).1 :: (pieces rest).2) :=
  rfl

/-- A character is kept where no delimiter starts with it. -/
theorem pieces_cons {c : Char} {rest : Text} (hstart : ¬ delimiter <+: c :: rest) :
    pieces (c :: rest) = (c :: (pieces rest).1, (pieces rest).2) := by
  rw [pieces.eq_3]
  rintro other rfl rfl
  exact hstart ⟨other, rfl⟩

/-- A text that holds no delimiter is not cut, unless the text behind it starts with the second
character of one. -/
theorem pieces_append {front rest : Text} (hfront : ¬ delimiter <:+: front)
    (hrest : rest.head? ≠ some '>') :
    pieces (front ++ rest) = (front ++ (pieces rest).1, (pieces rest).2) := by
  induction front with
  | nil => rfl
  | cons c front ih =>
    obtain ⟨hstart, hfront'⟩ := not_or.mp (mt List.infix_cons_iff.mpr hfront)
    have hstart : ¬ delimiter <+: c :: (front ++ rest) := by
      cases front with
      | nil =>
        rintro ⟨other, hother⟩
        exact hrest (congrArg List.head? (List.cons.inj hother).2).symm
      | cons d others =>
        intro hdelimiter
        exact hstart (by simpa [delimiter] using hdelimiter)
    rw [List.cons_append, pieces_cons hstart, ih hfront', List.cons_append]

/-- Texts that hold no delimiter are found again when they are put together with delimiters. -/
theorem pieces_append_flatMap {root : Text} {segments : List Text} (hroot : ¬ delimiter <:+: root)
    (hsegments : ∀ segment ∈ segments, ¬ delimiter <:+: segment) :
    pieces (root ++ segments.flatMap (delimiter ++ ·)) = (root, segments) := by
  induction segments generalizing root with
  | nil => simpa [pieces] using pieces_append hroot (show ([] : Text).head? ≠ some '>' by simp)
  | cons segment rest ih =>
    obtain ⟨hsegment, hrest⟩ := List.forall_mem_cons.mp hsegments
    rw [List.flatMap_cons, List.append_assoc,
      pieces_append hroot (by simp [delimiter]), pieces_delimiter_append, ih hsegment hrest,
      List.append_nil]

/-! ### Reading and writing -/

/-- A root starts as an identifier does, qualified or not. -/
theorem exists_root_eq_cons (path : KeyPath) :
    ∃ first rest, path.root = first :: rest ∧ isIdentifierStart first = true := by
  rcases isColumnName_iff.mp path.root_isColumnName with hname | ⟨table, column, heq, htable, -⟩
  · obtain ⟨first, rest, hroot, hfirst, -⟩ := isIdentifier_iff.mp hname
    exact ⟨first, rest, hroot, hfirst⟩
  · obtain ⟨first, rest, rfl, hfirst, -⟩ := isIdentifier_iff.mp htable
    exact ⟨first, rest ++ '.' :: column, heq, hfirst⟩

theorem greater_notMem_of_isColumnName {root : Text} (hroot : isColumnName root = true) :
    '>' ∉ root := by
  have hidentifier {name : Text} (hname : isIdentifier name = true) : '>' ∉ name :=
    notMem_of_isIdentifier hname (by decide)
  rcases isColumnName_iff.mp hroot with hname | ⟨table, column, rfl, htable, hcolumn⟩
  · exact hidentifier hname
  · simp [hidentifier htable, hidentifier hcolumn]

theorem pieces_text (path : KeyPath) : pieces path.text = (path.root, path.segments) := by
  have hsolid {name : Text} (hname : '>' ∉ name) : ¬ delimiter <:+: name := fun hdelimiter ↦
    hname (hdelimiter.subset (by decide))
  exact pieces_append_flatMap (hsolid (greater_notMem_of_isColumnName path.root_isColumnName))
    fun segment hmem ↦ hsolid (notMem_of_isSegmentName (path.segments_areNames segment hmem)
      (by decide))

/-- A path is read from its text and from no other one. -/
theorem parse_eq_ok_iff {text : Text} {path : KeyPath} :
    parse text = .ok path ↔ path.text = text := by
  constructor
  · intro hparse
    unfold parse at hparse
    split at hparse
    · cases hparse
    · obtain rfl := Except.ok.inj hparse
      exact append_flatMap_pieces text
  · rintro rfl
    have hvalid : firstDefect? path.text = none := by
      rw [firstDefect?_eq_none_iff, pieces_text]
      exact ⟨path.root_isColumnName, path.segments_areNames⟩
    unfold parse
    split
    · next defect hdefect => cases hvalid.symm.trans hdefect
    · cases path
      simp only [pieces_text]

theorem read_eq_ok_iff {text : Text} {path : KeyPath} :
    read text = .ok path ↔ path.text = text := by
  rw [← parse_eq_ok_iff, read]
  cases parse text <;> simp

theorem read_eq_error_iff {text : Text} {failure : FilterError} :
    read text = .error failure ↔
      ∃ defect, parse text = .error defect ∧ failure = .malformedPath text defect := by
  rw [read]
  cases parse text <;> simp [eq_comm]

theorem text_injective : Function.Injective KeyPath.text := by
  intro first second hsame
  have hfirst : parse second.text = .ok first := parse_eq_ok_iff.mpr hsame
  have hsecond : parse second.text = .ok second := parse_eq_ok_iff.mpr rfl
  exact Except.ok.inj (hfirst.symm.trans hsecond)

/-- What is read is a column name and segment names, put together with delimiters, and every such
text is read, as these names; a path is read from its own text and from no other one; and two
paths have two texts. -/
theorem parse_eq_ok_iff_grammar :
    (∀ (text root : Text) (segments : List Text),
      (∃ path, parse text = .ok path ∧ path.root = root ∧ path.segments = segments) ↔
        text = root ++ segments.flatMap (delimiter ++ ·) ∧ root ∈ columnNames ∧
          ∀ segment ∈ segments, segment ∈ segmentNames) ∧
    (∀ (text : Text) (path : KeyPath), parse text = .ok path ↔ path.text = text) ∧
    Function.Injective KeyPath.text := by
  refine ⟨fun written root segments ↦ ?_, fun _ _ ↦ parse_eq_ok_iff, text_injective⟩
  simp only [← isColumnName_iff_mem, ← isSegmentName_iff_mem, parse_eq_ok_iff]
  constructor
  · rintro ⟨path, rfl, rfl, rfl⟩
    exact ⟨rfl, path.root_isColumnName, path.segments_areNames⟩
  · rintro ⟨rfl, hroot, hsegments⟩
    exact ⟨⟨root, segments, hroot, hsegments⟩, rfl, rfl, rfl⟩

/-- Hyphens at either end of a segment belong to the segment. -/
example : (KeyPath.parse "a.b->-->--".toList).toOption.map (·.segments) =
    some ["-".toList, "--".toList] := by decide

end KeyPath

end KeyPathQuery
