import KeyPathQuery.KeyPath.Selection
import KeyPathQuery.Proofs.KeyPath.Grammar

/-!
The texts of selections. A selection is a key path, or a key path, the mark ` as ` and an
identifier, with white space around either part. The first mark divides the text, and its two
letters may also be a column: where the path is `as`, stands behind a space and is followed by
one, the path itself is taken for the mark, and nothing is left in front of it.

No other reading goes wrong. A mark starts and ends with a space and holds no other white space, so
it can only lie across a word that is preceded and followed by spaces, and the one word in front of
the intended mark is the path (`nameMark_infix_iff`).

Main statement: `parse_eq_iff_spelling`.
-/

set_option autoImplicit false
set_option relaxedAutoImplicit false

namespace KeyPathQuery

/-! ### The words of a selection -/

theorem isBlank_of_isSegmentChar {c : Char} (hc : isSegmentChar c = true) :
    Text.isBlank c = false := by
  have between {first last : Char} (hmem : c ∈ Set.Icc first last) (hfirst : 0x20 < first.toNat)
      (hlast : last.toNat < 0x7F) : Text.isBlank c = false := by
    have hlow : first.toNat ≤ c.toNat := hmem.1
    have hhigh : c.toNat ≤ last.toNat := hmem.2
    exact Text.isBlank_of_shown (by omega) (by omega)
  rcases isSegmentChar_iff.mp hc with ((hcapital | hsmall) | hdigit) | rfl | rfl | rfl
  · exact between hcapital (by decide) (by decide)
  · exact between hsmall (by decide) (by decide)
  · exact between hdigit (by decide) (by decide)
  · decide
  · decide
  · decide

theorem isBlank_of_isIdentifierChar {c : Char} (hc : isIdentifierChar c = true) :
    Text.isBlank c = false :=
  isBlank_of_isSegmentChar (by simp [isSegmentChar, hc])

theorem isWord_of_isIdentifier {name : Text} (hname : isIdentifier name = true) : name.IsWord := by
  refine ⟨?_, fun c hmem ↦ isBlank_of_isIdentifierChar (isIdentifierChar_of_mem hname hmem)⟩
  rintro rfl
  cases hname

/-- A key path is written as one word. -/
theorem KeyPath.isWord_text (path : KeyPath) : path.text.IsWord := by
  have hroot : path.root.IsWord := by
    rcases isColumnName_iff.mp path.root_isColumnName with hname | ⟨table, column, heq, hqualified⟩
    · exact isWord_of_isIdentifier hname
    · have htable := isWord_of_isIdentifier hqualified.1
      have hcolumn := isWord_of_isIdentifier hqualified.2
      rw [heq]
      refine ⟨by simp, fun c hmem ↦ ?_⟩
      rcases List.mem_append.mp hmem with hmem | hmem
      · exact htable.2 c hmem
      · rcases List.mem_cons.mp hmem with rfl | hmem
        · decide
        · exact hcolumn.2 c hmem
  refine ⟨by simp [text, hroot.1], fun c hmem ↦ ?_⟩
  rcases List.mem_append.mp hmem with hmem | hmem
  · exact hroot.2 c hmem
  · obtain ⟨segment, hsegment, hmem⟩ := List.mem_flatMap.mp hmem
    rcases List.mem_append.mp hmem with hmem | hmem
    · have hdelimiter : ∀ d ∈ delimiter, Text.isBlank d = false :=
        List.forall_mem_cons.mpr ⟨by decide, List.forall_mem_singleton.mpr (by decide)⟩
      exact hdelimiter c hmem
    · have hname := isSegmentName_iff.mp (path.segments_areNames segment hsegment)
      exact isBlank_of_isSegmentChar (hname.2 c hmem)

namespace Selection

open Text

/-! ### Where a mark can lie -/

theorem nameMark_eq : nameMark = [' ', 'a', 's', ' '] := by decide

/-- A mark in front is a space in front of its letters and its last space. -/
theorem nameMark_prefix_cons {c : Char} {rest : Text} :
    nameMark <+: c :: rest ↔ ' ' = c ∧ ['a', 's', ' '] <+: rest := by
  rw [nameMark_eq, List.cons_prefix_cons]

/-- Behind white space a mark starts at the last space or not at all. -/
theorem nameMark_infix_blanks_append {run : Text} (hrun : run.IsBlanks) (rest : Text) :
    nameMark <:+: run ++ rest ↔
      run.getLast? = some ' ' ∧ ['a', 's', ' '] <+: rest ∨ nameMark <:+: rest := by
  induction run with
  | nil => simp
  | cons c run ih =>
    have hothers : IsBlanks run := (List.forall_mem_cons.mp hrun).2
    rw [List.cons_append, List.infix_cons_iff, nameMark_prefix_cons, ih hothers]
    cases run with
    | nil =>
      rw [List.nil_append, List.getLast?_nil, List.getLast?_singleton, Option.some.injEq,
        eq_comm (a := c)]
      simp
    | cons d others =>
      -- The letter behind the space would have to be white space.
      have hnot : ¬ ['a', 's', ' '] <+: d :: others ++ rest := by
        intro hstarts
        obtain ⟨rfl, -⟩ := List.cons_prefix_cons.mp hstarts
        exact absurd (hothers 'a' List.mem_cons_self) (by decide)
      rw [and_iff_right_of_imp fun h ↦ absurd h hnot, or_iff_right hnot, List.getLast?_cons_cons]

/-- No mark starts within a text without spaces. -/
theorem nameMark_infix_append {front : Text} (hfront : ' ' ∉ front) (rest : Text) :
    nameMark <:+: front ++ rest ↔ nameMark <:+: rest := by
  induction front with
  | nil => rfl
  | cons c front ih =>
    obtain ⟨hc, hothers⟩ := not_or.mp (mt List.mem_cons.mpr hfront)
    have hnot : ¬ nameMark <+: c :: (front ++ rest) := fun hstarts ↦
      hc (nameMark_prefix_cons.mp hstarts).1
    rw [List.cons_append, List.infix_cons_iff, or_iff_right hnot, ih hothers]

/-- A text without spaces holds no mark. -/
theorem not_nameMark_infix_of_notMem {text : Text} (htext : ' ' ∉ text) : ¬ nameMark <:+: text :=
  fun hmark ↦ htext (hmark.subset (by decide))

/-- The letters and the last space of a mark stand in front where the first word is made of these
letters and a space follows it. -/
theorem letters_prefix_iff {word run last : Text} (hword : word.IsWord) (hrun : run.IsBlanks)
    (hlast : ' ' ∉ last) :
    ['a', 's', ' '] <+: word ++ (run ++ last) ↔ word = ['a', 's'] ∧ run.head? = some ' ' := by
  obtain ⟨hne, hsolid⟩ := hword
  match word with
  | [] => exact absurd rfl hne
  | [first] =>
    refine iff_of_false (fun hstarts ↦ ?_) (by simp)
    obtain ⟨-, hsecond⟩ := List.cons_prefix_cons.mp hstarts
    cases run with
    | nil => exact hlast (hsecond.subset (by decide))
    | cons c others =>
      obtain ⟨rfl, -⟩ := List.cons_prefix_cons.mp hsecond
      exact absurd (hrun 's' List.mem_cons_self) (by decide)
  | [first, second] =>
    have hspace : [' '] <+: run ++ last ↔ run.head? = some ' ' := by
      cases run with
      | nil => exact iff_of_false (fun hstarts ↦ hlast (hstarts.subset (by decide))) (by simp)
      | cons c others => simp [eq_comm]
    simp only [List.cons_append, List.nil_append, List.cons_prefix_cons, hspace, List.cons.injEq,
      and_true, and_assoc, eq_comm]
  | first :: second :: third :: others =>
    refine iff_of_false (fun hstarts ↦ ?_) (by simp)
    obtain ⟨-, hsecond⟩ := List.cons_prefix_cons.mp hstarts
    obtain ⟨-, hthird⟩ := List.cons_prefix_cons.mp hsecond
    obtain ⟨rfl, -⟩ := List.cons_prefix_cons.mp hthird
    exact absurd (hsolid ' ' (by simp)) (by decide)

/-- Among white space, a word, white space and a text without spaces, the word is the only place
for a mark. -/
theorem nameMark_infix_iff {before word run last : Text} (hbefore : before.IsBlanks)
    (hword : word.IsWord) (hrun : run.IsBlanks) (hlast : ' ' ∉ last) :
    nameMark <:+: before ++ (word ++ (run ++ last)) ↔
      word = ['a', 's'] ∧ before.getLast? = some ' ' ∧ run.head? = some ' ' := by
  have hbehind : ¬ nameMark <:+: run ++ last := by
    rw [nameMark_infix_blanks_append hrun, or_iff_left (not_nameMark_infix_of_notMem hlast)]
    exact fun hstarts ↦ hlast (hstarts.2.subset (by decide))
  rw [nameMark_infix_blanks_append hbefore, nameMark_infix_append hword.space_notMem,
    or_iff_left hbehind, letters_prefix_iff hword hrun hlast]
  exact and_left_comm

/-- White space, a word and white space in front of a mark are in front of the first mark, unless
the word is taken for a mark. -/
theorem cut_nameMark_iff {before word behind : Text} (hbefore : before.IsBlanks)
    (hword : word.IsWord) (hbehind : behind.IsBlanks) (after : Text) :
    (before ++ word ++ behind ++ nameMark ++ after).cut nameMark =
        some (before ++ word ++ behind, after) ↔
      ¬ (word = ['a', 's'] ∧ before.getLast? = some ' ' ∧
        (behind = [] ∨ behind.head? = some ' ')) := by
  have hrun : IsBlanks (behind ++ [' ']) := by
    refine List.forall_mem_append.mpr ⟨hbehind, List.forall_mem_singleton.mpr (by decide)⟩
  have hhead : (behind ++ [' ']).head? = some ' ' ↔ behind = [] ∨ behind.head? = some ' ' := by
    cases behind <;> simp
  have hfront : before ++ word ++ behind ++ nameMark.dropLast =
      before ++ (word ++ (behind ++ [' '] ++ ['a', 's'])) := by
    simp [nameMark_eq]
  rw [cut_append_iff (by simp [nameMark_eq]), hfront,
    nameMark_infix_iff hbefore hword hrun (by decide), hhead]

/-! ### The parts of a text -/

/-- The parts of a text, without surrounding white space: the texts in front of and behind its first
mark, or the text itself if it holds no mark. -/
inductive HasParts (text : Text) : Text → Option Text → Prop
  | marked {before after : Text} (htext : text = before ++ nameMark ++ after)
    (hfirst : ∀ other rest, text = other ++ nameMark ++ rest → before.length ≤ other.length) :
    HasParts text before.trim (some after.trim)
  | unmarked (hnone : ¬ nameMark <:+: text) : HasParts text text.trim none

theorem hasParts_iff {text front : Text} {back : Option Text} :
    HasParts text front back ↔ parts text = (front, back) := by
  unfold parts
  constructor
  · rintro (⟨htext, hfirst⟩ | hnone)
    · rw [cut_eq_some_iff.mpr ⟨htext, hfirst⟩]
    · rw [cut_eq_none_iff.mpr hnone]
  · intro hparts
    split at hparts
    · next before after hcut =>
      obtain ⟨rfl, rfl⟩ := Prod.mk.inj hparts
      obtain ⟨htext, hfirst⟩ := cut_eq_some_iff.mp hcut
      exact .marked htext hfirst
    · next hcut =>
      obtain ⟨rfl, rfl⟩ := Prod.mk.inj hparts
      exact .unmarked (cut_eq_none_iff.mp hcut)

/-- Two words are the parts of the texts that hold them around the mark and put nothing but white
space beside them, unless the first word is taken for a mark. -/
theorem hasParts_some_iff {text word name : Text} (hword : word.IsWord) (hname : name.IsWord) :
    HasParts text word (some name) ↔ ∃ before behind front back : Text,
      before.IsBlanks ∧ behind.IsBlanks ∧ front.IsBlanks ∧ back.IsBlanks ∧
        text = before ++ word ++ behind ++ nameMark ++ (front ++ name ++ back) ∧
        ¬ (word = ['a', 's'] ∧ before.getLast? = some ' ' ∧
          (behind = [] ∨ behind.head? = some ' ')) := by
  constructor
  · intro hparts
    obtain ⟨first, second, htext, hfirst, hfront, hback⟩ : ∃ first second,
        text = first ++ nameMark ++ second ∧
        (∀ other rest, text = other ++ nameMark ++ rest → first.length ≤ other.length) ∧
        first.trim = word ∧ second.trim = name := by
      cases hparts with
      | marked htext hfirst => exact ⟨_, _, htext, hfirst, rfl, rfl⟩
    obtain ⟨before, behind, hbefore, hbehind, heq⟩ := exists_blank_ends first
    obtain ⟨front, back, hfrontBlank, hbackBlank, heq'⟩ := exists_blank_ends second
    rw [hfront] at heq
    rw [hback] at heq'
    subst heq heq'
    refine ⟨before, behind, front, back, hbefore, hbehind, hfrontBlank, hbackBlank, htext, ?_⟩
    rw [← cut_nameMark_iff hbefore hword hbehind (front ++ name ++ back), ← htext]
    exact cut_eq_some_iff.mpr ⟨htext, hfirst⟩
  · rintro ⟨before, behind, front, back, hbefore, hbehind, hfront, hback, rfl, hnot⟩
    rw [hasParts_iff, parts, (cut_nameMark_iff hbefore hword hbehind _).mpr hnot]
    dsimp only
    rw [hword.trim_append hbefore hbehind, hname.trim_append hfront hback]

/-- A word is the one part of the texts that put nothing but white space around it, unless it is
taken for a mark. -/
theorem hasParts_none_iff {text word : Text} (hword : word.IsWord) :
    HasParts text word none ↔ ∃ before behind : Text, before.IsBlanks ∧ behind.IsBlanks ∧
      text = before ++ word ++ behind ∧
      ¬ (word = ['a', 's'] ∧ before.getLast? = some ' ' ∧ behind.head? = some ' ') := by
  have hmark {before behind : Text} (hbefore : before.IsBlanks) (hbehind : behind.IsBlanks) :
      nameMark <:+: before ++ word ++ behind ↔
        word = ['a', 's'] ∧ before.getLast? = some ' ' ∧ behind.head? = some ' ' := by
    rw [← nameMark_infix_iff hbefore hword hbehind List.not_mem_nil, List.append_nil,
      List.append_assoc]
  constructor
  · intro hparts
    obtain ⟨hnone, htrim⟩ : ¬ nameMark <:+: text ∧ text.trim = word := by
      cases hparts with
      | unmarked hnone => exact ⟨hnone, rfl⟩
    obtain ⟨before, behind, hbefore, hbehind, heq⟩ := exists_blank_ends text
    rw [htrim] at heq
    subst heq
    exact ⟨before, behind, hbefore, hbehind, rfl, mt (hmark hbefore hbehind).mpr hnone⟩
  · rintro ⟨before, behind, hbefore, hbehind, rfl, hnot⟩
    have hnone := mt (hmark hbefore hbehind).mp hnot
    have hparts := HasParts.unmarked hnone
    rwa [hword.trim_append hbefore hbehind] at hparts

/-! ### Reading -/

/-- A path is read from the first part and a name, if there is one, from the second. -/
theorem parse_eq_ok_iff_hasParts {text : Text} {path : KeyPath} {name : Option Text} :
    parse text = .ok ⟨path, name⟩ ↔
      HasParts text path.text name ∧ ∀ given ∈ name, isIdentifier given = true := by
  rw [hasParts_iff]
  constructor
  · intro hparse
    unfold parse at hparse
    split at hparse
    · cases hparse
    · next read hread hnone =>
      obtain ⟨rfl, rfl⟩ := Selection.mk.inj (Except.ok.inj hparse)
      exact ⟨Prod.ext (KeyPath.read_eq_ok_iff.mp hread).symm hnone, by simp⟩
    · next read given hread hsome =>
      split at hparse
      · next hgiven =>
        obtain ⟨rfl, rfl⟩ := Selection.mk.inj (Except.ok.inj hparse)
        exact ⟨Prod.ext (KeyPath.read_eq_ok_iff.mp hread).symm hsome, by simpa using hgiven⟩
      · cases hparse
  · rintro ⟨hparts, hname⟩
    unfold parse
    rw [hparts, KeyPath.read_eq_ok_iff.mpr rfl]
    cases name with
    | none => rfl
    | some given => exact if_pos (hname given rfl)

/-- The first part is at fault, whatever the second one is, or the second part is. -/
theorem parse_eq_error_iff {text : Text} {failure : FilterError} :
    parse text = .error failure ↔
      (∃ front back defect, HasParts text front back ∧ KeyPath.parse front = .error defect ∧
        failure = .malformedPath front defect) ∨
      ∃ (path : KeyPath) (name : Text), HasParts text path.text (some name) ∧
        isIdentifier name = false ∧ failure = .invalidAlias name := by
  simp only [hasParts_iff]
  constructor
  · intro hparse
    unfold parse at hparse
    split at hparse
    · next refusal hread =>
      obtain rfl := Except.error.inj hparse
      obtain ⟨defect, hdefect, rfl⟩ := KeyPath.read_eq_error_iff.mp hread
      exact .inl ⟨_, _, defect, rfl, hdefect, rfl⟩
    · cases hparse
    · next read given hread hsome =>
      split at hparse
      · cases hparse
      · next hgiven =>
        obtain rfl := Except.error.inj hparse
        exact .inr ⟨read, given, Prod.ext (KeyPath.read_eq_ok_iff.mp hread).symm hsome,
          Bool.eq_false_iff.mpr hgiven, rfl⟩
  · rintro (⟨front, back, defect, hparts, hdefect, rfl⟩ | ⟨path, name, hparts, hname, rfl⟩)
    · have hread := KeyPath.read_eq_error_iff.mpr ⟨defect, hdefect, rfl⟩
      simp only [parse, hparts, hread]
    · have hread := KeyPath.read_eq_ok_iff.mpr (Eq.refl path.text)
      simp only [parse, hparts, hread, hname, Bool.false_eq_true, if_false]

/-- What a text spells as a selection, and how it fails. A text spells a path with a name if it is
the path, the mark and the name, with any white space around the path and the name; it spells a path
without a name if it is the path with any white space around it. The one exception is a path `as`
that spaces on both sides turn into a mark. Every other text fails by the part in front of its first
mark, or by the whole text if it holds none, and only if that is a path by the part behind. -/
theorem parse_eq_iff_spelling (text : Text) :
    (∀ (path : KeyPath) (name : Text), parse text = .ok ⟨path, some name⟩ ↔
      name ∈ identifiers ∧ ∃ before behind front back : Text,
        before.IsBlanks ∧ behind.IsBlanks ∧ front.IsBlanks ∧ back.IsBlanks ∧
        text = before ++ path.text ++ behind ++ " as ".toList ++ (front ++ name ++ back) ∧
        ¬ (path.text = "as".toList ∧ before.getLast? = some ' ' ∧
          (behind = [] ∨ behind.head? = some ' '))) ∧
    (∀ path : KeyPath, parse text = .ok ⟨path, none⟩ ↔
      ∃ before behind : Text, before.IsBlanks ∧ behind.IsBlanks ∧
        text = before ++ path.text ++ behind ∧
        ¬ (path.text = "as".toList ∧ before.getLast? = some ' ' ∧ behind.head? = some ' ')) ∧
    (∀ failure, parse text = .error failure ↔
      (∃ front back defect, HasParts text front back ∧ KeyPath.parse front = .error defect ∧
        failure = .malformedPath front defect) ∨
      ∃ (path : KeyPath) (name : Text), HasParts text path.text (some name) ∧
        name ∉ identifiers ∧ failure = .invalidAlias name) := by
  refine ⟨fun path name ↦ ?_, fun path ↦ ?_, fun failure ↦ ?_⟩
  · have hname : (∀ given ∈ some name, isIdentifier given = true) ↔ name ∈ identifiers := by
      simp [isIdentifier_iff_mem]
    rw [parse_eq_ok_iff_hasParts, hname, and_comm]
    refine and_congr_right fun hmem ↦ ?_
    have hword := isWord_of_isIdentifier (isIdentifier_iff_mem.mpr hmem)
    exact hasParts_some_iff path.isWord_text hword
  · rw [parse_eq_ok_iff_hasParts, and_iff_left (by simp)]
    exact hasParts_none_iff path.isWord_text
  · simp only [parse_eq_error_iff, ← isIdentifier_iff_mem, Bool.not_eq_true]

/-- A tab in front keeps the column `as` from being taken for the mark. -/
example :
    parse "\tas as name".toList =
        .ok ⟨⟨"as".toList, [], by decide, by decide⟩, some "name".toList⟩ ∧
      parse " as as name".toList = .error (.malformedPath [] .empty) := by decide

end Selection

end KeyPathQuery
