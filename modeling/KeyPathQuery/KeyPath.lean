import KeyPathQuery.Identifier

/-!
Key paths. A key path names a column and the JSON fields to descend into from there:
`meta->profile->country` is the column `meta` and the segments `profile` and `country`. The
column may be qualified by a table. The type holds valid paths only, so whatever is built from
a path may rely on its characters.

`KeyPath.parse` reports the first defect, from left to right. The delimiter is two characters
wide and its first one may end a segment, so the text is cut at the leftmost places: in
`m->a-->b` the segments are `a-` and `b`.

Main statement: `firstDefect?_eq_none_iff` says that a text has no defect exactly when its first
piece is a column name and every later piece is a segment name.
-/

set_option autoImplicit false
set_option relaxedAutoImplicit false

namespace KeyPathQuery

/-- A column and the names of the fields below it, outermost first. -/
structure KeyPath where
  root : Text
  segments : List Text
  root_isColumnName : isColumnName root = true
  segments_areNames : ∀ segment ∈ segments, isSegmentName segment = true
deriving DecidableEq

/-- What keeps a text from being a key path. -/
inductive PathDefect where
  /-- The text is empty. -/
  | empty
  /-- Nothing stands before the first delimiter. -/
  | emptyRoot
  /-- What stands before the first delimiter is no column name. -/
  | invalidRoot (root : Text)
  /-- Nothing stands at a place between delimiters, counted from one. -/
  | emptySegment (place : Nat)
  /-- A segment holds a character that segments may not hold. -/
  | unsupportedSegment (segment : Text)
deriving DecidableEq, Repr

namespace KeyPath

/-- The delimiter between a root and its segments. -/
def delimiter : Text := ['-', '>']

/-- The text before the first delimiter and the texts after each delimiter. -/
def pieces : Text → Text × List Text
  | [] => ([], [])
  | '-' :: '>' :: rest =>
    let (first, others) := pieces rest
    ([], first :: others)
  | c :: rest =>
    let (first, others) := pieces rest
    (c :: first, others)

/-- The defect of the text before the first delimiter. -/
def rootDefect? (root : Text) : Option PathDefect :=
  if root.isEmpty then some .emptyRoot
  else if isColumnName root then none
  else some (.invalidRoot root)

/-- The first defect of the texts between delimiters, the first of which stands at a place. -/
def segmentDefect? (place : Nat) : List Text → Option PathDefect
  | [] => none
  | segment :: rest =>
    if segment.isEmpty then some (.emptySegment place)
    else if segment.all isSegmentChar then segmentDefect? (place + 1) rest
    else some (.unsupportedSegment segment)

/-- The first defect of a text, from left to right. -/
def firstDefect? (text : Text) : Option PathDefect :=
  if text.isEmpty then some .empty
  else
    let (root, segments) := pieces text
    (rootDefect? root).or (segmentDefect? 1 segments)

theorem isColumnName_of_rootDefect? {root : Text} (hnone : rootDefect? root = none) :
    isColumnName root = true := by
  simp only [rootDefect?] at hnone
  split at hnone
  · simp at hnone
  · split at hnone
    · assumption
    · simp at hnone

theorem rootDefect?_eq_none_iff {root : Text} :
    rootDefect? root = none ↔ isColumnName root = true := by
  refine ⟨isColumnName_of_rootDefect?, fun hroot ↦ ?_⟩
  have hne : root ≠ [] := by rintro rfl; exact absurd hroot (by decide)
  simp [rootDefect?, List.isEmpty_iff, hne, hroot]

theorem segmentDefect?_eq_none_iff {place : Nat} {segments : List Text} :
    segmentDefect? place segments = none ↔ ∀ segment ∈ segments, isSegmentName segment = true := by
  induction segments generalizing place with
  | nil => simp [segmentDefect?]
  | cons segment rest ih =>
    simp only [segmentDefect?, List.mem_cons, forall_eq_or_imp]
    by_cases hempty : segment.isEmpty
    · simp [isSegmentName, hempty]
    · by_cases hall : segment.all isSegmentChar
      · simp [hempty, hall, ih, isSegmentName]
      · simp [isSegmentName, hempty, hall]

/-- A text has no defect when it is not empty, starts with a column name, and every piece after
a delimiter is a segment name. -/
theorem firstDefect?_eq_none_iff {text : Text} : firstDefect? text = none ↔
    isColumnName (pieces text).1 = true ∧
      ∀ segment ∈ (pieces text).2, isSegmentName segment = true := by
  by_cases hempty : text = []
  · subst hempty
    simp [firstDefect?, pieces]
    decide
  · simp [firstDefect?, List.isEmpty_iff, hempty, Option.or_eq_none_iff, rootDefect?_eq_none_iff,
      segmentDefect?_eq_none_iff]

/-- The key path that a text spells, or the first defect of the text. -/
def parse (text : Text) : Except PathDefect KeyPath :=
  match hdefect : firstDefect? text with
  | some defect => .error defect
  | none =>
    have hvalid := firstDefect?_eq_none_iff.mp hdefect
    .ok ⟨(pieces text).1, (pieces text).2, hvalid.1, hvalid.2⟩

/-! ### Forms of a path -/

/-- A path as it is written: the root and the segments with the delimiter between them. -/
def text (path : KeyPath) : Text :=
  path.root ++ path.segments.flatMap (delimiter ++ ·)

/-- Whether a path goes below its column. -/
def isNested (path : KeyPath) : Bool :=
  !path.segments.isEmpty

/-- The segments with points between them. -/
def dottedSegments (path : KeyPath) : Text :=
  Text.join ['.'] path.segments

/-- The root and the segments with points between them. -/
def dotted (path : KeyPath) : Text :=
  path.root ++ path.segments.flatMap ('.' :: ·)

/-- A text with each delimiter replaced by an underscore, from left to right. -/
def underscoreDelimiters : Text → Text
  | [] => []
  | '-' :: '>' :: rest => '_' :: underscoreDelimiters rest
  | c :: rest => c :: underscoreDelimiters rest

/-- The name a projection of the path gets by itself: the written path with each delimiter, and
then every character that no identifier holds, replaced by an underscore. -/
def defaultAlias (path : KeyPath) : Text :=
  (underscoreDelimiters path.text).map fun c ↦ if isIdentifierChar c then c else '_'

/-- The table of a qualified root, and the column. -/
def column (path : KeyPath) : Option Text × Text :=
  match path.root.cut ['.'] with
  | some (table, name) => (some table, name)
  | none => (none, path.root)

end KeyPath

end KeyPathQuery
