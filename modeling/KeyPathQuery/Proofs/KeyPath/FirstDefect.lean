import KeyPathQuery.FilterError
import KeyPathQuery.Proofs.KeyPath.Grammar

/-!
What a refused key path tells its caller. The pieces of a text are what stands before, between and
behind its delimiters, and no piece holds a delimiter itself, so a text has its pieces in one way
only (`hasPieces_iff`). `HasFirstDefect` goes through them from left to right, the root first, up to
the first one that is not in order, and gives the reason for it.

A piece that is not in order leads to a first defect (`exists_hasFirstDefect`), a text with a first
defect is refused with that one (`read_of_hasFirstDefect`), and a refused text has a piece that is
not in order (`fault_of_read_eq_error`). So a refusal names the first defect, whatever else is wrong
behind it.

Main statement: `read_reports_first_defect`.
-/

set_option autoImplicit false
set_option relaxedAutoImplicit false

namespace KeyPathQuery.KeyPath

/-! ### The pieces of a text -/

/-- The texts before, between and behind the delimiters of a text. -/
structure HasPieces (text first : Text) (others : List Text) : Prop where
  text_eq : text = first ++ others.flatMap (delimiter ++ ·)
  first_solid : ¬ delimiter <:+: first
  others_solid : ∀ piece ∈ others, ¬ delimiter <:+: piece

/-- No piece of a text holds a delimiter. -/
theorem solid_pieces (text : Text) :
    ¬ delimiter <:+: (pieces text).1 ∧ ∀ piece ∈ (pieces text).2, ¬ delimiter <:+: piece := by
  have hempty : ¬ delimiter <:+: ([] : Text) := by decide
  fun_induction pieces text with
  | case1 => exact ⟨hempty, by simp⟩
  | case2 rest first others heq ih =>
    rw [heq] at ih
    exact ⟨hempty, List.forall_mem_cons.mpr ih⟩
  | case3 c rest hdelimiter first others heq ih =>
    rw [heq] at ih
    refine ⟨fun hinfix ↦ ?_, ih.2⟩
    rcases List.infix_cons_iff.mp hinfix with ⟨tail, hprefix⟩ | hinfix
    · -- A delimiter in front of the first piece is one in front of the text.
      have hrest := append_flatMap_pieces rest
      obtain ⟨rfl, hfirst⟩ := List.cons.inj hprefix
      rw [heq, ← hfirst] at hrest
      exact hdelimiter _ rfl hrest.symm
    · exact ih.1 hinfix

theorem hasPieces_iff {text first : Text} {others : List Text} :
    HasPieces text first others ↔ pieces text = (first, others) := by
  constructor
  · rintro ⟨rfl, hfirst, hothers⟩
    exact pieces_append_flatMap hfirst hothers
  · intro hpieces
    have htext := append_flatMap_pieces text
    have hsolid := solid_pieces text
    rw [hpieces] at htext hsolid
    exact ⟨htext.symm, hsolid.1, hsolid.2⟩

/-! ### The first defect -/

/-- The first defect of a text from left to right, with the reason that a caller is told. The root
is the first piece, the segments are the others, counted from one, and what stands before the defect
is in order. -/
inductive HasFirstDefect : Text → PathDefect → Text → Prop
  | empty : HasFirstDefect [] .empty "key path is empty".toList
  | emptyRoot {text : Text} {segments : List Text} (htext : text ≠ [])
    (hpieces : HasPieces text [] segments) :
    HasFirstDefect text .emptyRoot "root column is empty".toList
  | invalidRoot {text root : Text} {segments : List Text} (hpieces : HasPieces text root segments)
    (hne : root ≠ []) (hroot : root ∉ columnNames) :
    HasFirstDefect text (.invalidRoot root) (root.quoted ++ " is not a valid column name".toList)
  | emptySegment {text root : Text} {before after : List Text}
    (hpieces : HasPieces text root (before ++ [] :: after)) (hroot : root ∈ columnNames)
    (hbefore : ∀ segment ∈ before, segment ∈ segmentNames) :
    HasFirstDefect text (.emptySegment (before.length + 1))
      ("segment ".toList ++ Json.digits (before.length + 1) ++ " is empty".toList)
  | unsupportedSegment {text root segment : Text} {before after : List Text}
    (hpieces : HasPieces text root (before ++ segment :: after)) (hroot : root ∈ columnNames)
    (hbefore : ∀ segment ∈ before, segment ∈ segmentNames) (hne : segment ≠ [])
    (hsegment : segment ∉ segmentNames) :
    HasFirstDefect text (.unsupportedSegment segment)
      ("segment ".toList ++ segment.quoted ++ " contains unsupported characters".toList)

/-- Segments that are in order are passed over, and counted. -/
theorem segmentDefect?_append {before : List Text}
    (hbefore : ∀ segment ∈ before, isSegmentName segment = true) (place : Nat)
    (rest : List Text) :
    segmentDefect? place (before ++ rest) = segmentDefect? (place + before.length) rest := by
  induction before generalizing place with
  | nil => rfl
  | cons segment before ih =>
    obtain ⟨hsegment, hothers⟩ := List.forall_mem_cons.mp hbefore
    obtain ⟨hne, hall⟩ := isSegmentName_iff.mp hsegment
    rw [List.cons_append, segmentDefect?, if_neg (by simpa using hne),
      if_pos (List.all_eq_true.mpr hall), ih hothers, List.length_cons, Nat.add_assoc,
      Nat.add_comm 1]

/-- Behind a root that is in order the first defect is that of a segment. -/
theorem firstDefect?_of_root {text root : Text} {segments : List Text}
    (hpieces : HasPieces text root segments) (hroot : root ∈ columnNames) :
    firstDefect? text = segmentDefect? 1 segments := by
  have hname := isColumnName_iff_mem.mpr hroot
  have htext : text ≠ [] := by
    rintro rfl
    obtain rfl : [] = root := congrArg Prod.fst (hasPieces_iff.mp hpieces)
    exact absurd hname (by decide)
  rw [firstDefect?, if_neg (by simpa using htext), hasPieces_iff.mp hpieces]
  simp only [rootDefect?_eq_none_iff.mpr hname, Option.none_or]

/-- The first defect of a text is found, and its reason is the one that is given. -/
theorem firstDefect?_of_hasFirstDefect {text reason : Text} {defect : PathDefect}
    (hdefect : HasFirstDefect text defect reason) :
    firstDefect? text = some defect ∧ defect.reason = reason := by
  cases hdefect with
  | empty => exact ⟨rfl, rfl⟩
  | emptyRoot htext hpieces =>
    refine ⟨?_, rfl⟩
    rw [firstDefect?, if_neg (by simpa using htext), hasPieces_iff.mp hpieces]
    rfl
  | @invalidRoot _ root _ hpieces hne hroot =>
    refine ⟨?_, rfl⟩
    have htext : text ≠ [] := by
      rintro rfl
      exact hne (congrArg Prod.fst (hasPieces_iff.mp hpieces)).symm
    have hname : isColumnName root ≠ true := mt isColumnName_iff_mem.mp hroot
    have hdefect : rootDefect? root = some (.invalidRoot root) := by
      rw [rootDefect?, if_neg (by simpa using hne), if_neg hname]
    rw [firstDefect?, if_neg (by simpa using htext), hasPieces_iff.mp hpieces]
    simp only [hdefect, Option.some_or]
  | emptySegment hpieces hroot hbefore =>
    refine ⟨?_, rfl⟩
    rw [firstDefect?_of_root hpieces hroot,
      segmentDefect?_append fun segment hmem ↦ isSegmentName_iff_mem.mpr (hbefore segment hmem),
      Nat.add_comm]
    rfl
  | @unsupportedSegment _ _ segment _ _ hpieces hroot hbefore hne hsegment =>
    refine ⟨?_, rfl⟩
    have hall : ¬ segment.all isSegmentChar = true := fun hall ↦
      hsegment (isSegmentName_iff_mem.mp (isSegmentName_iff.mpr ⟨hne, List.all_eq_true.mp hall⟩))
    rw [firstDefect?_of_root hpieces hroot,
      segmentDefect?_append fun segment hmem ↦ isSegmentName_iff_mem.mpr (hbefore segment hmem),
      segmentDefect?, if_neg (by simpa using hne), if_neg hall]

/-- The first text that is no segment name, with those before it. -/
theorem exists_first_of_notMem_segmentNames {segments : List Text}
    (hsegments : ∃ segment ∈ segments, segment ∉ segmentNames) :
    ∃ before segment after, segments = before ++ segment :: after ∧
      (∀ earlier ∈ before, earlier ∈ segmentNames) ∧ segment ∉ segmentNames := by
  cases hfound : segments.find? (!isSegmentName ·) with
  | none =>
    obtain ⟨segment, hmem, hsegment⟩ := hsegments
    have hname := List.find?_eq_none.mp hfound segment hmem
    exact absurd (isSegmentName_iff_mem.mp (by simpa using hname)) hsegment
  | some segment =>
    obtain ⟨hsegment, before, after, heq, hbefore⟩ := List.find?_eq_some_iff_append.mp hfound
    refine ⟨before, segment, after, heq, fun earlier hmem ↦ ?_, fun hname ↦ ?_⟩
    · exact isSegmentName_iff_mem.mp (by simpa using hbefore earlier hmem)
    · simp [isSegmentName_iff_mem.mpr hname] at hsegment

/-- A text with a piece that is not in order has a first defect. -/
theorem exists_hasFirstDefect {text root : Text} {segments : List Text}
    (hpieces : HasPieces text root segments)
    (hfault : root ∉ columnNames ∨ ∃ segment ∈ segments, segment ∉ segmentNames) :
    ∃ defect reason, HasFirstDefect text defect reason := by
  by_cases hroot : root ∈ columnNames
  · have hsegments := hfault.resolve_left (not_not_intro hroot)
    obtain ⟨before, segment, after, rfl, hbefore, hsegment⟩ :=
      exists_first_of_notMem_segmentNames hsegments
    by_cases hne : segment = []
    · subst hne
      exact ⟨_, _, .emptySegment hpieces hroot hbefore⟩
    · exact ⟨_, _, .unsupportedSegment hpieces hroot hbefore hne hsegment⟩
  · by_cases htext : text = []
    · subst htext
      exact ⟨_, _, .empty⟩
    · by_cases hne : root = []
      · subst hne
        exact ⟨_, _, .emptyRoot htext hpieces⟩
      · exact ⟨_, _, .invalidRoot hpieces hne hroot⟩

/-! ### Reading -/

theorem read_of_hasFirstDefect {text reason : Text} {defect : PathDefect}
    (hdefect : HasFirstDefect text defect reason) :
    read text = .error (.malformedPath text defect) ∧ defect.reason = reason := by
  obtain ⟨hfirst, hreason⟩ := firstDefect?_of_hasFirstDefect hdefect
  refine ⟨read_eq_error_iff.mpr ⟨defect, ?_, rfl⟩, hreason⟩
  unfold parse
  split
  · next found hfound => rw [Option.some.inj (hfound.symm.trans hfirst)]
  · next hnone => cases hnone.symm.trans hfirst

/-- A text whose pieces are all in order spells a path, so a refused one has a piece that is not. -/
theorem fault_of_read_eq_error {text : Text} {failure : FilterError}
    (hread : read text = .error failure) :
    (pieces text).1 ∉ columnNames ∨ ∃ segment ∈ (pieces text).2, segment ∉ segmentNames := by
  by_contra! hvalid
  have hspelled : read text = .ok ⟨(pieces text).1, (pieces text).2,
      isColumnName_iff_mem.mpr hvalid.1,
      fun segment hmem ↦ isSegmentName_iff_mem.mpr (hvalid.2 segment hmem)⟩ :=
    read_eq_ok_iff.mpr (append_flatMap_pieces text)
  cases hread.symm.trans hspelled

/-- A text that is no key path is refused with the text itself and its first defect, and the reason
that is told is the reason for that one. A text with a first defect is refused so, and a piece that
is not in order, wherever it stands, is enough to be refused. -/
theorem read_reports_first_defect (text : Text) :
    (∀ failure, read text = .error failure →
      ∃ defect, failure = .malformedPath text defect ∧
        HasFirstDefect text defect defect.reason) ∧
    (∀ defect reason, HasFirstDefect text defect reason →
      read text = .error (.malformedPath text defect) ∧ defect.reason = reason) ∧
    ∀ root segments, HasPieces text root segments →
      root ∉ columnNames ∨ (∃ segment ∈ segments, segment ∉ segmentNames) →
      ∃ defect, read text = .error (.malformedPath text defect) := by
  refine ⟨fun failure hread ↦ ?_, fun defect reason ↦ read_of_hasFirstDefect,
    fun root segments hpieces hfault ↦ ?_⟩
  · obtain ⟨defect, reason, hdefect⟩ :=
      exists_hasFirstDefect (hasPieces_iff.mpr rfl) (fault_of_read_eq_error hread)
    obtain ⟨hfirst, rfl⟩ := read_of_hasFirstDefect hdefect
    exact ⟨defect, Except.error.inj (hread.symm.trans hfirst), hdefect⟩
  · obtain ⟨defect, reason, hdefect⟩ := exists_hasFirstDefect hpieces hfault
    exact ⟨defect, (read_of_hasFirstDefect hdefect).1⟩

/-- The empty segment is the second one: the hyphen before its delimiter belongs to the first. -/
example : read "m->a-->->b c".toList =
    .error (.malformedPath "m->a-->->b c".toList (.emptySegment 2)) := by decide

end KeyPathQuery.KeyPath
