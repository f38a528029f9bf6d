import KeyPathQuery.Toml.StringReader
import KeyPathQuery.Toml.Writer
import Mathlib.Tactic.SplitIfs

/-!
Strings are read back as they were written, in each of the four notations. A character that cannot
stand for itself between quotation marks has a spelling (`Spelling`), which the readers of one line
and of several lines take for that character.

A string of several lines ends at three marks, and up to two more may belong to its content. So a
single mark is read as a character only where no two marks follow it. The writer sees to that in two
ways: between quotation marks it spells the third one in a row, and it takes apostrophes only for a
text without three of them in a row. Two marks then follow only at the end of the content.

Main statement: `readString?_stringText`.
-/

set_option autoImplicit false
set_option relaxedAutoImplicit false

namespace KeyPathQuery.Toml

variable {mark c : Char} {text rest : Text}

/-! ### Marks in a row -/

/-- A text starts with two marks. -/
def StartsTwice (mark : Char) (text : Text) : Prop :=
  ∃ others, text = mark :: mark :: others

theorem not_startsTwice_of_head? (htext : text.head? ≠ some mark) : ¬ StartsTwice mark text := by
  rintro ⟨others, rfl⟩
  exact htext rfl

theorem not_startsTwice_cons (hrest : rest.head? ≠ some mark) : ¬ StartsTwice mark (c :: rest) := by
  rintro ⟨others, heq⟩
  obtain ⟨-, rfl⟩ := List.cons.inj heq
  exact hrest rfl

/-- Up to two marks before the closing ones belong to the content. -/
theorem afterClosing_replicate {count : Nat} (hcount : count ≤ 2) (hrest : rest.head? ≠ some mark) :
    afterClosing mark (List.replicate count mark ++ rest) = (List.replicate count mark, rest) := by
  have hnone (c : Char) (others : Text) (hothers : rest = c :: others) : c ≠ mark := by
    rintro rfl
    exact hrest (by rw [hothers, List.head?_cons])
  match count with
  | 0 =>
    match rest with
    | [] => rfl
    | [c] => simp [afterClosing, hnone c [] rfl]
    | c :: d :: others => simp [afterClosing, hnone c (d :: others) rfl]
  | 1 =>
    match rest with
    | [] => simp [afterClosing]
    | c :: others => simp [afterClosing, hnone c others rfl]
  | 2 => simp [afterClosing, List.replicate]

/-! ### Spelled characters -/

/-- The spellings of a character with a backslash: a letter, or the number of the character. -/
inductive Spelling : Text → Char → Prop
  | named {letter c : Char} (hletter : namedEscape? letter = some c) : Spelling ['\\', letter] c
  | coded {c : Char} (hc : c.toNat < 0x100) : Spelling (spelledControl c) c

theorem charOfHex?_hexCapital (hc : c.toNat < 0x100) :
    charOfHex? ['0', '0', Text.hexCapital (c.toNat / 16), Text.hexCapital (c.toNat % 16)] =
      some c := by
  have hhigh := Text.hexValue?_hexCapital (show c.toNat / 16 < 16 by omega)
  have hlow := Text.hexValue?_hexCapital (show c.toNat % 16 < 16 by omega)
  have hzero : Text.hexValue? '0' = some 0 := by decide
  have hnumber : Text.hexNumber? ['0', '0', Text.hexCapital (c.toNat / 16),
      Text.hexCapital (c.toNat % 16)] = some c.toNat := by
    simp [Text.hexNumber?, hzero, hhigh, hlow]
    omega
  have hvalid : c.toNat.isValidChar := c.valid
  rw [charOfHex?, hnumber]
  simp [hvalid]

theorem readBasic?_coded (first second third fourth : Char) (rest : Text) :
    readBasic? ('\\' :: 'u' :: first :: second :: third :: fourth :: rest) =
      match charOfHex? [first, second, third, fourth] with
      | some spelled => withChar spelled (readBasic? rest)
      | none => none :=
  rfl

theorem readBlock?_coded (first second third fourth : Char) (rest : Text) :
    readBlock? false ('\\' :: 'u' :: first :: second :: third :: fourth :: rest) =
      match charOfHex? [first, second, third, fourth] with
      | some spelled => withChar spelled (readBlock? false rest)
      | none => none :=
  rfl

theorem Spelling.readBasic?_append {spelled : Text} (hspelled : Spelling spelled c) (rest : Text) :
    readBasic? (spelled ++ rest) = withChar c (readBasic? rest) := by
  cases hspelled with
  | @named letter c hletter =>
    unfold namedEscape? at hletter
    split at hletter
    case h_8 => cases hletter
    all_goals
      obtain rfl := Option.some.inj hletter
      rfl
  | coded hc =>
    change readBasic? ('\\' :: 'u' :: '0' :: '0' :: _ :: _ :: rest) = _
    rw [readBasic?_coded, charOfHex?_hexCapital hc]

theorem Spelling.readBlock?_append {spelled : Text} (hspelled : Spelling spelled c) (rest : Text) :
    readBlock? false (spelled ++ rest) = withChar c (readBlock? false rest) := by
  cases hspelled with
  | @named letter c hletter =>
    unfold namedEscape? at hletter
    split at hletter
    case h_8 => cases hletter
    all_goals
      obtain rfl := Option.some.inj hletter
      rfl
  | coded hc =>
    change readBlock? false ('\\' :: 'u' :: '0' :: '0' :: _ :: _ :: rest) = _
    rw [readBlock?_coded, charOfHex?_hexCapital hc]

theorem spelling_of_spelled? {spelled : Text} (hspelled : spelled? c = some spelled) :
    Spelling spelled c := by
  unfold spelled? at hspelled
  split_ifs at hspelled with hbackspace htab hfeed hreturn hbackslash hcontrol
  · obtain rfl := Option.some.inj hspelled
    exact .named (by rw [hbackspace]; rfl)
  · obtain rfl := Option.some.inj hspelled
    exact .named (by rw [htab]; rfl)
  · obtain rfl := Option.some.inj hspelled
    exact .named (by rw [hfeed]; rfl)
  · obtain rfl := Option.some.inj hspelled
    exact .named (by rw [hreturn]; rfl)
  · obtain rfl := Option.some.inj hspelled
    exact .named (by rw [hbackslash]; rfl)
  · obtain rfl := Option.some.inj hspelled
    have hcodes : (c.toNat < 0x20 ∧ c ≠ '\t') ∨ c.toNat = 0x7F := by
      simpa [isControl] using hcontrol.2
    exact .coded (by omega)

/-- A character without a spelling stands for itself. -/
theorem plain_of_spelled?_eq_none (hspelled : spelled? c = none) :
    c ≠ '\\' ∧ c ≠ '\r' ∧ (c ≠ '\n' → isControl c = false) := by
  unfold spelled? at hspelled
  split_ifs at hspelled with _ _ _ hreturn hbackslash hcontrol
  refine ⟨hbackslash, hreturn, fun hfeed ↦ ?_⟩
  rw [Bool.eq_false_iff]
  exact fun htrue ↦ hcontrol ⟨hfeed, htrue⟩

/-- What is written for a character starts with a backslash or is the character. -/
theorem head?_getD_spelled? (c : Char) (rest : Text) :
    ((spelled? c).getD [c] ++ rest).head? = some '\\' ∨
      (((spelled? c).getD [c] ++ rest).head? = some c ∧ spelled? c = none) := by
  cases hspelled : spelled? c with
  | some spelled =>
    cases spelling_of_spelled? hspelled with
    | named => exact .inl rfl
    | coded => exact .inl rfl
  | none => exact .inr ⟨rfl, rfl⟩

/-! ### One line between quotation marks -/

theorem readBasic?_cons (hquote : c ≠ '"') (hbackslash : c ≠ '\\') (hcontrol : isControl c = false)
    (rest : Text) : readBasic? (c :: rest) = withChar c (readBasic? rest) := by
  rw [readBasic?]
  · simp [hbackslash, hcontrol]
  all_goals simp [hquote, hbackslash]

theorem readBasic?_basicContent (text rest : Text) :
    readBasic? (basicContent text ++ '"' :: rest) = some (text, rest) := by
  induction text with
  | nil => rfl
  | cons c others ih =>
    have hcons (part : Text)
        (hpart : readBasic? (part ++ (basicContent others ++ '"' :: rest)) =
          withChar c (readBasic? (basicContent others ++ '"' :: rest))) :
        readBasic? (part ++ basicContent others ++ '"' :: rest) = some (c :: others, rest) := by
      rw [List.append_assoc, hpart, ih]
      rfl
    unfold basicContent at hcons ⊢
    rw [List.flatMap_cons]
    apply hcons
    split_ifs with hquote hfeed
    · exact Spelling.readBasic?_append (.named (by rw [hquote]; rfl)) _
    · exact Spelling.readBasic?_append (.named (by rw [hfeed]; rfl)) _
    · cases hspelled : spelled? c with
      | some spelled => exact (spelling_of_spelled? hspelled).readBasic?_append _
      | none =>
        obtain ⟨hbackslash, -, hcontrol⟩ := plain_of_spelled?_eq_none hspelled
        exact readBasic?_cons hquote hbackslash (hcontrol hfeed) _

/-! ### Several lines between quotation marks -/

theorem readBlock?_cons (hquote : c ≠ '"') (hbackslash : c ≠ '\\') (hreturn : c ≠ '\r')
    (hcontrol : c ≠ '\n' → isControl c = false) (rest : Text) :
    readBlock? false (c :: rest) = withChar c (readBlock? false rest) := by
  rw [readBlock?]
  · by_cases hfeed : c = '\n'
    · simp [hfeed]
    · simp [hfeed, hbackslash, hcontrol hfeed]
  all_goals simp [hquote, hbackslash, hreturn]

/-- A mark that no two marks follow belongs to the content. -/
theorem readBlock?_mark (hrest : ¬ StartsTwice '"' rest) :
    readBlock? false ('"' :: rest) = withChar '"' (readBlock? false rest) := by
  rw [readBlock?]
  · rfl
  · exact fun others _ heq ↦ hrest ⟨others, heq⟩
  all_goals simp

theorem readBlock?_closing {count : Nat} (hcount : count ≤ 2) (hrest : rest.head? ≠ some '"') :
    readBlock? false ("\"\"\"".toList ++ (List.replicate count '"' ++ rest)) =
      some (List.replicate count '"', rest) :=
  congrArg some (afterClosing_replicate hcount hrest)

/-- The content of several lines starts with a mark only if the text does, and less than two have
been written before it. -/
theorem head?_blockContent {run : Nat} (hc : c = '"' → 2 ≤ run) (others rest : Text) :
    (blockContent run (c :: others) ++ rest).head? ≠ some '"' := by
  have hbackslash : some '\\' ≠ some '"' := by decide
  by_cases hquote : c = '"'
  · have hrun : ¬ run < 2 := Nat.not_lt.mpr (hc hquote)
    rw [blockContent, if_pos hquote, if_neg hrun]
    exact hbackslash
  · rw [blockContent, if_neg hquote]
    rw [List.append_assoc]
    rcases head?_getD_spelled? c (blockContent 0 others ++ rest) with hhead | ⟨hhead, -⟩
    · rw [hhead]
      exact hbackslash
    · rw [hhead]
      exact fun heq ↦ hquote (Option.some.inj heq)

/-- Strings of several lines are read back. The induction is on the text, whatever number of marks
has been written before it. -/
theorem readBlock?_blockContent (run : Nat) (text : Text) (hrest : rest.head? ≠ some '"') :
    readBlock? false (blockContent run text ++ ("\"\"\"".toList ++ rest)) = some (text, rest) := by
  induction text generalizing run with
  | nil => exact readBlock?_closing (Nat.zero_le 2) hrest
  | cons c others ih =>
    have hcons (part : Text) {next : Nat}
        (hpart :
          readBlock? false (part ++ (blockContent next others ++ ("\"\"\"".toList ++ rest))) =
            withChar c (readBlock? false (blockContent next others ++ ("\"\"\"".toList ++ rest)))) :
        readBlock? false (part ++ blockContent next others ++ ("\"\"\"".toList ++ rest)) =
          some (c :: others, rest) := by
      rw [List.append_assoc, hpart, ih]
      rfl
    by_cases hquote : c = '"'
    · subst hquote
      by_cases hrun : run < 2
      · rw [blockContent, if_pos rfl, if_pos hrun]
        -- The mark is one of the closing ones only where nothing but marks is left.
        match others with
        | [] => exact readBlock?_closing (by decide : 1 ≤ 2) hrest
        | d :: more =>
          by_cases hraw : d = '"' ∧ run = 0
          · obtain ⟨rfl, rfl⟩ := hraw
            match more with
            | [] => exact readBlock?_closing (by decide : 2 ≤ 2) hrest
            | e :: last =>
              have hapart := head?_blockContent (c := e) (fun _ ↦ Nat.le_refl 2) last
              exact hcons ['"'] (readBlock?_mark (not_startsTwice_cons (hapart _)))
          · have hrow : d = '"' → 2 ≤ run + 1 := by
              intro hd
              have hone : run ≠ 0 := fun hzero ↦ hraw ⟨hd, hzero⟩
              omega
            have hapart := head?_blockContent hrow more
            exact hcons ['"'] (readBlock?_mark (not_startsTwice_of_head? (hapart _)))
      · rw [blockContent, if_pos rfl, if_neg hrun]
        exact hcons _ (Spelling.readBlock?_append (.named rfl) _)
    · rw [blockContent, if_neg hquote]
      refine hcons _ ?_
      cases hspelled : spelled? c with
      | some spelled => exact (spelling_of_spelled? hspelled).readBlock?_append _
      | none =>
        obtain ⟨hbackslash, hreturn, hcontrol⟩ := plain_of_spelled?_eq_none hspelled
        exact readBlock?_cons hquote hbackslash hreturn hcontrol _

/-! ### Between apostrophes -/

theorem forall_of_hasControl_eq_false (htext : hasControl text = false) :
    ∀ c ∈ text, c ≠ '\n' → isControl c = false := by
  simpa [hasControl] using htext

theorem readLiteral?_append (hmark : '\'' ∉ text) (hcontrol : ∀ c ∈ text, isControl c = false)
    (rest : Text) : readLiteral? (text ++ '\'' :: rest) = some (text, rest) := by
  induction text with
  | nil => rfl
  | cons c others ih =>
    obtain ⟨hc, hothers⟩ := List.forall_mem_cons.mp hcontrol
    obtain ⟨hne, hnone⟩ := not_or.mp (mt List.mem_cons.mpr hmark)
    rw [List.cons_append, readLiteral?, if_neg (Ne.symm hne), ih hnone hothers, hc]
    rfl

theorem readLiteralBlock?_cons (hmark : c ≠ '\'') (hcontrol : c ≠ '\n' → isControl c = false)
    (rest : Text) : readLiteralBlock? (c :: rest) = withChar c (readLiteralBlock? rest) := by
  have hreturn : c ≠ '\r' := by
    rintro rfl
    exact absurd (hcontrol (by decide)) (by decide)
  rw [readLiteralBlock?]
  · rw [if_neg fun h ↦ Bool.false_ne_true ((hcontrol h.1).symm.trans h.2)]
  all_goals simp [hmark, hreturn]

theorem readLiteralBlock?_mark (hrest : ¬ StartsTwice '\'' rest) :
    readLiteralBlock? ('\'' :: rest) = withChar '\'' (readLiteralBlock? rest) := by
  rw [readLiteralBlock?]
  · rfl
  · exact fun others _ heq ↦ hrest ⟨others, heq⟩
  · simp

theorem readLiteralBlock?_closing {count : Nat} (hcount : count ≤ 2)
    (hrest : rest.head? ≠ some '\'') :
    readLiteralBlock? ("'''".toList ++ (List.replicate count '\'' ++ rest)) =
      some (List.replicate count '\'', rest) :=
  congrArg some (afterClosing_replicate hcount hrest)

theorem longestRun_cons (mark c : Char) (run : Nat) (text : Text) :
    longestRun mark run (c :: text) =
      if c = mark then longestRun mark (run + 1) text else max run (longestRun mark 0 text) :=
  rfl

theorem le_longestRun (mark : Char) (run : Nat) (text : Text) : run ≤ longestRun mark run text := by
  induction text generalizing run with
  | nil => exact Nat.le_refl run
  | cons c others ih =>
    rw [longestRun_cons]
    split_ifs
    · exact Nat.le_trans (Nat.le_succ run) (ih (run + 1))
    · exact Nat.le_max_left _ _

theorem longestRun_mono {run next : Nat} (hle : run ≤ next) (mark : Char) (text : Text) :
    longestRun mark run text ≤ longestRun mark next text := by
  induction text generalizing run next with
  | nil => exact hle
  | cons c others ih =>
    rw [longestRun_cons, longestRun_cons]
    split_ifs
    · exact ih (Nat.succ_le_succ hle)
    · omega

theorem longestRun_tail (mark c : Char) (text : Text) :
    longestRun mark 0 text ≤ longestRun mark 0 (c :: text) := by
  rw [longestRun_cons]
  split_ifs
  · exact longestRun_mono (Nat.zero_le 1) mark text
  · exact Nat.le_max_right _ _

/-- Strings of several lines between apostrophes are read back if there are not three of these in a
row. -/
theorem readLiteralBlock?_append (hcontrol : ∀ c ∈ text, c ≠ '\n' → isControl c = false)
    (hrun : longestRun '\'' 0 text ≤ 2) (hrest : rest.head? ≠ some '\'') :
    readLiteralBlock? (text ++ ("'''".toList ++ rest)) = some (text, rest) := by
  induction text with
  | nil => exact readLiteralBlock?_closing (Nat.zero_le 2) hrest
  | cons c others ih =>
    obtain ⟨hc, hothers⟩ := List.forall_mem_cons.mp hcontrol
    have hread := ih hothers (Nat.le_trans (longestRun_tail '\'' c others) hrun)
    by_cases hmark : c = '\''
    · subst hmark
      -- Two marks behind this one are the closing ones, or the content would hold three in a row.
      have hmore (happart : ¬ StartsTwice '\'' (others ++ ("'''".toList ++ rest))) :
          readLiteralBlock? ('\'' :: others ++ ("'''".toList ++ rest)) =
            some ('\'' :: others, rest) := by
        rw [List.cons_append, readLiteralBlock?_mark happart, hread]
        rfl
      match others with
      | [] => exact readLiteralBlock?_closing (by decide : 1 ≤ 2) hrest
      | d :: more =>
        by_cases hd : d = '\''
        · subst hd
          match more with
          | [] => exact readLiteralBlock?_closing (by decide : 2 ≤ 2) hrest
          | e :: last =>
            have he : e ≠ '\'' := by
              rintro rfl
              have hthree : 3 ≤ longestRun '\'' 0 ('\'' :: '\'' :: '\'' :: last) :=
                le_longestRun '\'' 3 last
              omega
            exact hmore (not_startsTwice_cons (by simpa using he))
        · exact hmore (not_startsTwice_of_head? (by simpa using hd))
    · rw [List.cons_append, readLiteralBlock?_cons hmark hc, hread]
      rfl

/-! ### The four notations -/

theorem readString?_quotes (htext : ¬ StartsTwice '"' text) :
    readString? ('"' :: text) = readBasic? text := by
  rw [readString?]
  exact fun others heq ↦ htext ⟨others, heq⟩

theorem readString?_apostrophes (htext : ¬ StartsTwice '\'' text) :
    readString? ('\'' :: text) = readLiteral? text := by
  rw [readString?]
  exact fun others heq ↦ htext ⟨others, heq⟩

theorem readString?_basic (text : Text) (hrest : rest.head? ≠ some '"') :
    readString? (['"'] ++ (basicContent text ++ (['"'] ++ rest))) = some (text, rest) := by
  have happart : ¬ StartsTwice '"' (basicContent text ++ '"' :: rest) := by
    cases text with
    | nil => exact not_startsTwice_cons hrest
    | cons c others =>
      apply not_startsTwice_of_head?
      have hbackslash : some '\\' ≠ some '"' := by decide
      rw [basicContent, List.flatMap_cons, List.append_assoc]
      split_ifs with hquote
      · exact hbackslash
      · exact hbackslash
      · rcases head?_getD_spelled? c _ with hhead | ⟨hhead, -⟩
        · rw [hhead]
          exact hbackslash
        · rw [hhead]
          exact fun heq ↦ hquote (Option.some.inj heq)
  exact (readString?_quotes happart).trans (readBasic?_basicContent text rest)

theorem readString?_literal (hmark : '\'' ∉ text) (hcontrol : ∀ c ∈ text, isControl c = false)
    (hrest : rest.head? ≠ some '\'') :
    readString? (['\''] ++ (text ++ (['\''] ++ rest))) = some (text, rest) := by
  have happart : ¬ StartsTwice '\'' (text ++ '\'' :: rest) := by
    cases text with
    | nil => exact not_startsTwice_cons hrest
    | cons c others =>
      have hc : c ≠ '\'' := Ne.symm (not_or.mp (mt List.mem_cons.mpr hmark)).1
      exact not_startsTwice_of_head? (by simpa using hc)
  exact (readString?_apostrophes happart).trans (readLiteral?_append hmark hcontrol rest)

/-- The line break after the opening marks is skipped, and nothing of the content is. -/
theorem skipLineBreak_openingBreak (hfeed : rest.head? = some '\n' → '\n' ∈ text)
    (hreturn : rest.head? ≠ some '\r') : skipLineBreak (openingBreak text ++ rest) = rest := by
  unfold openingBreak
  split_ifs with hline
  · rfl
  · have hnone : afterLineBreak? rest = none := by
      unfold afterLineBreak?
      split
      · exact absurd (hfeed rfl) (by simpa using hline)
      · exact absurd rfl hreturn
      · rfl
    rw [List.nil_append, skipLineBreak, hnone]
    rfl

/-- The content of several lines starts with a line break only if the text does. -/
theorem of_mem_head?_blockContent {text rest : Text}
    (hc : c ∈ (blockContent 0 text ++ ("\"\"\"".toList ++ rest)).head?) :
    c = '"' ∨ c = '\\' ∨ (c ∈ text ∧ c ≠ '\r') := by
  cases text with
  | nil => exact .inl (Option.some.inj hc).symm
  | cons d others =>
    rw [blockContent] at hc
    split_ifs at hc with hquote
    · exact .inl ((Option.some.inj hc).symm.trans hquote)
    · exact absurd (Nat.zero_lt_succ 1) ‹¬ 0 < 2›
    · rw [List.append_assoc] at hc
      rcases head?_getD_spelled? d (blockContent 0 others ++ ("\"\"\"".toList ++ rest)) with
        hhead | ⟨hhead, hplain⟩
      · rw [hhead] at hc
        exact .inr (.inl (Option.some.inj hc).symm)
      · rw [hhead] at hc
        obtain rfl := Option.some.inj hc
        exact .inr (.inr ⟨List.mem_cons_self, (plain_of_spelled?_eq_none hplain).2.1⟩)

theorem readString?_block (text : Text) (hrest : rest.head? ≠ some '"') :
    readString? ("\"\"\"".toList ++ (openingBreak text ++ (blockContent 0 text ++
      ("\"\"\"".toList ++ rest)))) = some (text, rest) := by
  have hfeed : (blockContent 0 text ++ ("\"\"\"".toList ++ rest)).head? = some '\n' →
      '\n' ∈ text := by
    intro hhead
    have hcases := of_mem_head?_blockContent hhead
    simpa using hcases
  have hreturn : (blockContent 0 text ++ ("\"\"\"".toList ++ rest)).head? ≠ some '\r' := by
    intro hhead
    have hcases := of_mem_head?_blockContent hhead
    simp at hcases
  change readBlock? false (skipLineBreak (openingBreak text ++ _)) = _
  rw [skipLineBreak_openingBreak hfeed hreturn, readBlock?_blockContent 0 text hrest]

theorem readString?_literalBlock (hcontrol : ∀ c ∈ text, c ≠ '\n' → isControl c = false)
    (hrun : longestRun '\'' 0 text ≤ 2) (hrest : rest.head? ≠ some '\'') :
    readString? ("'''".toList ++ (openingBreak text ++ (text ++ ("'''".toList ++ rest)))) =
      some (text, rest) := by
  have hhead : ∀ c ∈ (text ++ ("'''".toList ++ rest)).head?, c = '\'' ∨ c ∈ text := by
    cases text with
    | nil => simp
    | cons c others => simp
  have hfeed : (text ++ ("'''".toList ++ rest)).head? = some '\n' → '\n' ∈ text := by
    intro hfirst
    simpa using hhead '\n' hfirst
  have hreturn : (text ++ ("'''".toList ++ rest)).head? ≠ some '\r' := by
    intro hfirst
    have hmem : '\r' ∈ text := by simpa using hhead '\r' hfirst
    exact absurd (hcontrol '\r' hmem (by decide)) (by decide)
  change readLiteralBlock? (skipLineBreak (openingBreak text ++ _)) = _
  rw [skipLineBreak_openingBreak hfeed hreturn, readLiteralBlock?_append hcontrol hrun hrest]

/-- A string is read back as it was written, whatever the text, as long as no mark follows. -/
theorem readString?_stringText (text : Text) (hquote : rest.head? ≠ some '"')
    (happostrophe : rest.head? ≠ some '\'') :
    readString? (stringText text ++ rest) = some (text, rest) := by
  have hbasic : readString? (['"'] ++ basicContent text ++ ['"'] ++ rest) = some (text, rest) := by
    simpa only [List.append_assoc] using readString?_basic text hquote
  have hblock : readString? ("\"\"\"".toList ++ openingBreak text ++ blockContent 0 text ++
      "\"\"\"".toList ++ rest) = some (text, rest) := by
    simpa only [List.append_assoc] using readString?_block text hquote
  unfold stringText
  dsimp only
  split
  · exact hbasic
  split
  · next hfits =>
    simp only [Bool.and_eq_true, Bool.not_eq_true', List.contains_eq_mem,
      decide_eq_false_iff_not] at hfits
    obtain ⟨⟨hcontrol, hline⟩, hmark⟩ := hfits
    have hplain : ∀ c ∈ text, isControl c = false := by
      intro c hc
      have hfeed : c ≠ '\n' := by
        rintro rfl
        exact hline hc
      exact forall_of_hasControl_eq_false hcontrol c hc hfeed
    simpa only [List.append_assoc] using readString?_literal hmark hplain happostrophe
  split
  · exact hblock
  split
  · next hfits =>
    simp only [Bool.and_eq_true, Bool.not_eq_true', decide_eq_true_eq] at hfits
    obtain ⟨hcontrol, hrun⟩ := hfits
    have hplain := forall_of_hasControl_eq_false hcontrol
    simpa only [List.append_assoc] using readString?_literalBlock hplain hrun happostrophe
  split
  · exact hblock
  · exact hbasic

example : stringText "it's".toList = "\"it's\"".toList := by decide

example : stringText "\"a\"\t'b'".toList = "\"\"\"\"a\"\\t'b'\"\"\"".toList := by decide

end KeyPathQuery.Toml
