/-!
Texts are lists of characters. Every rule of this library is a rule on characters read one
after another, and lists give each of them an induction. This module holds the operations
that more than one format needs: cutting a text at a mark, splitting it at a character,
joining texts, looking for one text inside another.

Main statements: `cut_eq_some_iff` and `cut_eq_none_iff` say that `cut` finds the first occurrence
of a mark and nothing else, `cutLast_eq_some_iff` that `cutLast` finds the last occurrence of a
character, `join_split` that splitting loses nothing, `split_append_cons` that it splits at every
mark, `span_append` that a run of characters of one kind ends where another kind starts, and
`occursIn_iff` that `occursIn` decides whether a text lies inside another as one block.
-/

set_option autoImplicit false
set_option relaxedAutoImplicit false

namespace KeyPathQuery

/-- A text, as the list of its characters. -/
abbrev Text := List Char

namespace Text

/-- The texts before and after the first occurrence of `mark`, if it occurs. -/
def cut (text mark : Text) : Option (Text × Text) :=
  match text with
  | [] => if mark.isEmpty then some ([], []) else none
  | c :: rest =>
    if mark.isPrefixOf (c :: rest) then some ([], (c :: rest).drop mark.length)
    else (cut rest mark).map fun (before, after) ↦ (c :: before, after)

/-- The texts before and after the last occurrence of the character `mark`, if it occurs. -/
def cutLast (mark : Char) : Text → Option (Text × Text)
  | [] => none
  | c :: rest =>
    match cutLast mark rest with
    | some (before, after) => some (c :: before, after)
    | none => if c = mark then some ([], rest) else none

/-- The texts between the occurrences of the character `mark`; one more than there are
occurrences. -/
def split (mark : Char) : Text → List Text
  | [] => [[]]
  | c :: rest =>
    if c = mark then [] :: split mark rest
    else
      match split mark rest with
      | [] => [[c]]
      | piece :: pieces => (c :: piece) :: pieces

/-- The texts one after another with `mark` between neighbours. -/
def join (mark : Text) : List Text → Text
  | [] => []
  | [piece] => piece
  | piece :: next :: pieces => piece ++ mark ++ join mark (next :: pieces)

/-- Whether `part` lies inside a text as one block. -/
def occursIn (part : Text) : Text → Bool
  | [] => part.isEmpty
  | c :: rest => part.isPrefixOf (c :: rest) || occursIn part rest

/-- The text up to its first line break. -/
def firstLine (text : Text) : Text :=
  text.takeWhile (· != '\n')

/-- Lower case for the letters of ASCII, every other character as it is. -/
def asciiLowerCase (text : Text) : Text :=
  text.map Char.toLower

/-! ### Marks -/

theorem cut_nil (mark : Text) : cut [] mark = if mark.isEmpty then some ([], []) else none :=
  rfl

theorem cut_cons (c : Char) (rest mark : Text) :
    cut (c :: rest) mark =
      if mark.isPrefixOf (c :: rest) then some ([], (c :: rest).drop mark.length)
      else (cut rest mark).map fun (before, after) ↦ (c :: before, after) :=
  rfl

theorem cut_eq_some {text mark before after : Text} (h : text.cut mark = some (before, after)) :
    text = before ++ mark ++ after := by
  induction text generalizing before with
  | nil =>
    rw [cut_nil] at h
    split at h
    · next hempty =>
      simp only [Option.some.injEq, Prod.mk.injEq] at h
      simp_all
    · simp at h
  | cons c rest ih =>
    rw [cut_cons] at h
    split at h
    · next hmark =>
      simp only [Option.some.injEq, Prod.mk.injEq] at h
      obtain ⟨rfl, rfl⟩ := h
      obtain ⟨tail, htail⟩ := List.isPrefixOf_iff_prefix.mp hmark
      simp [← htail]
    · simp only [Option.map_eq_some_iff, Prod.exists, Prod.mk.injEq] at h
      obtain ⟨before', after', hcut, rfl, rfl⟩ := h
      simp [ih hcut]

theorem cut_eq_none {text mark : Text} (h : text.cut mark = none) : ¬ mark <:+: text := by
  induction text with
  | nil =>
    intro hin
    have hempty : mark = [] := List.eq_nil_of_infix_nil hin
    simp [cut_nil, hempty] at h
  | cons c rest ih =>
    rw [cut_cons] at h
    split at h
    · simp at h
    · next hmark =>
      rw [Option.map_eq_none_iff] at h
      intro hin
      rcases List.infix_cons_iff.mp hin with hprefix | hinfix
      · exact hmark (List.isPrefixOf_iff_prefix.mpr hprefix)
      · exact ih h hinfix

/-- No occurrence of the mark starts before the one at which a text is cut. -/
theorem length_le_of_cut {text mark before after other rest : Text}
    (hcut : text.cut mark = some (before, after)) (hother : text = other ++ mark ++ rest) :
    before.length ≤ other.length := by
  induction text generalizing before other with
  | nil =>
    rw [cut_nil] at hcut
    split at hcut
    · obtain ⟨rfl, -⟩ := Prod.mk.inj (Option.some.inj hcut)
      exact Nat.zero_le _
    · cases hcut
  | cons c text ih =>
    rw [cut_cons] at hcut
    split at hcut
    · obtain ⟨rfl, -⟩ := Prod.mk.inj (Option.some.inj hcut)
      exact Nat.zero_le _
    · next hmark =>
      simp only [Option.map_eq_some_iff, Prod.exists, Prod.mk.injEq] at hcut
      obtain ⟨before', after', hcut, rfl, rfl⟩ := hcut
      cases other with
      | nil => exact absurd (List.isPrefixOf_iff_prefix.mpr ⟨rest, hother.symm⟩) hmark
      | cons d others => exact Nat.succ_le_succ (ih hcut (List.cons.inj hother).2)

/-- A text is cut at the first occurrence of a mark. -/
theorem cut_eq_some_iff {text mark before after : Text} :
    text.cut mark = some (before, after) ↔ text = before ++ mark ++ after ∧
      ∀ other rest, text = other ++ mark ++ rest → before.length ≤ other.length := by
  constructor
  · intro hcut
    exact ⟨cut_eq_some hcut, fun other rest hother ↦ length_le_of_cut hcut hother⟩
  · rintro ⟨htext, hfirst⟩
    cases hcut : text.cut mark with
    | none => exact absurd ⟨before, after, htext.symm⟩ (cut_eq_none hcut)
    | some parts =>
      obtain ⟨front, back⟩ := parts
      have hparts := cut_eq_some hcut
      have hlength : front.length = before.length :=
        Nat.le_antisymm (length_le_of_cut hcut htext) (hfirst front back hparts)
      rw [hparts, List.append_assoc, List.append_assoc] at htext
      obtain ⟨rfl, hrest⟩ := List.append_inj htext hlength
      rw [List.append_cancel_left hrest]

theorem cut_eq_none_iff {text mark : Text} : text.cut mark = none ↔ ¬ mark <:+: text := by
  refine ⟨cut_eq_none, fun hnone ↦ ?_⟩
  cases hcut : text.cut mark with
  | none => rfl
  | some parts => exact absurd ⟨parts.1, parts.2, (cut_eq_some hcut).symm⟩ hnone

/-- A text is cut at an occurrence of a mark exactly if no other one ends before that one does. -/
theorem cut_append_iff {before mark after : Text} (hmark : mark ≠ []) :
    (before ++ mark ++ after).cut mark = some (before, after) ↔
      ¬ mark <:+: before ++ mark.dropLast := by
  have hpos := List.length_pos_iff.mpr hmark
  have hsplit : before ++ mark ++ after =
      before ++ mark.dropLast ++ mark.getLast hmark :: after := by
    rw [List.append_cons, List.append_assoc before, List.append_assoc before,
      List.dropLast_concat_getLast, List.append_assoc]
  constructor
  · rintro hcut ⟨other, rest, hother⟩
    have htext : before ++ mark ++ after =
        other ++ mark ++ (rest ++ mark.getLast hmark :: after) := by
      rw [hsplit, ← hother, List.append_assoc (other ++ mark)]
    have hle := length_le_of_cut hcut htext
    have hlength := congrArg List.length hother
    simp only [List.length_append, List.length_dropLast] at hlength
    omega
  · refine fun hnone ↦ cut_eq_some_iff.mpr ⟨rfl, fun other rest hother ↦
      Nat.le_of_not_lt fun hlt ↦ hnone ?_⟩
    have hlength : (other ++ mark).length ≤ (before ++ mark.dropLast).length := by
      simp only [List.length_append, List.length_dropLast]
      omega
    obtain ⟨back, hback⟩ :=
      List.prefix_of_prefix_length_le ⟨rest, hother.symm⟩ ⟨_, hsplit.symm⟩ hlength
    exact ⟨other, back, hback⟩

/-- A text is cut at a character where that stands for the first time. -/
theorem cut_append_cons {mark : Char} {before : Text} (hbefore : mark ∉ before) (after : Text) :
    cut (before ++ mark :: after) [mark] = some (before, after) := by
  induction before with
  | nil => simp [cut_cons, List.isPrefixOf]
  | cons c rest ih =>
    have hc : (mark == c) = false := by
      rw [beq_eq_false_iff_ne]; rintro rfl; simp at hbefore
    have hrest := ih fun hmem ↦ hbefore (List.mem_cons_of_mem _ hmem)
    simp [cut_cons, List.isPrefixOf, hc, hrest]

theorem cutLast_cons (mark c : Char) (rest : Text) :
    cutLast mark (c :: rest) =
      match cutLast mark rest with
      | some (before, after) => some (c :: before, after)
      | none => if c = mark then some ([], rest) else none :=
  rfl

theorem cutLast_eq_none_iff {mark : Char} {text : Text} :
    cutLast mark text = none ↔ mark ∉ text := by
  induction text with
  | nil => simp [cutLast]
  | cons c rest ih =>
    rw [cutLast_cons, List.mem_cons, not_or, ← ih]
    cases cutLast mark rest with
    | some parts => simp
    | none => simp [eq_comm]

/-- A text is cut at the occurrence of a character behind which it does not stand again. -/
theorem cutLast_eq_some_iff {mark : Char} {text before after : Text} :
    cutLast mark text = some (before, after) ↔ text = before ++ mark :: after ∧ mark ∉ after := by
  induction text generalizing before with
  | nil => simp [cutLast]
  | cons c rest ih =>
    rw [cutLast_cons]
    cases before with
    | nil =>
      cases hrest : cutLast mark rest with
      | some parts =>
        have hmem : mark ∈ rest := by
          rw [← Decidable.not_not (p := mark ∈ rest), ← cutLast_eq_none_iff, hrest]
          simp
        simp only [Option.some.injEq, Prod.mk.injEq, reduceCtorEq, false_and, List.nil_append,
          List.cons.injEq, false_iff, not_and, Decidable.not_not]
        rintro ⟨-, rfl⟩
        exact hmem
      | none =>
        have hnotMem := cutLast_eq_none_iff.mp hrest
        by_cases hc : c = mark
        · simp only [hc, if_true, Option.some.injEq, Prod.mk.injEq, true_and, List.nil_append,
            List.cons.injEq]
          exact ⟨fun hsame ↦ ⟨hsame, hsame ▸ hnotMem⟩, fun hsame ↦ hsame.1⟩
        · simp [hc]
    | cons first others =>
      rw [List.cons_append, List.cons.injEq, and_assoc, ← ih]
      cases cutLast mark rest with
      | some parts => simp [Prod.ext_iff, and_assoc]
      | none => by_cases hc : c = mark <;> simp [hc]

/-! ### Splitting and joining -/

theorem split_cons (mark c : Char) (rest : Text) :
    split mark (c :: rest) =
      if c = mark then [] :: split mark rest
      else
        match split mark rest with
        | [] => [[c]]
        | piece :: pieces => (c :: piece) :: pieces :=
  rfl

theorem split_ne_nil (mark : Char) (text : Text) : split mark text ≠ [] := by
  cases text with
  | nil => exact List.cons_ne_nil _ _
  | cons c rest =>
    rw [split_cons]
    split
    · simp
    · split <;> simp

theorem join_split (mark : Char) (text : Text) : join [mark] (split mark text) = text := by
  induction text with
  | nil => rfl
  | cons c rest ih =>
    rw [split_cons]
    split
    · next hmark =>
      cases hrest : split mark rest with
      | nil => exact absurd hrest (split_ne_nil mark rest)
      | cons piece pieces => simp [join, ← hrest, ih, hmark]
    · cases hrest : split mark rest with
      | nil => exact absurd hrest (split_ne_nil mark rest)
      | cons piece pieces =>
        rw [hrest] at ih
        cases pieces with
        | nil => simpa [join] using ih
        | cons next others => simpa [join] using ih

theorem split_of_notMem {mark : Char} {piece : Text} (hpiece : mark ∉ piece) :
    split mark piece = [piece] := by
  induction piece with
  | nil => rfl
  | cons c rest ih =>
    obtain ⟨hc, hrest⟩ := not_or.mp (mt List.mem_cons.mpr hpiece)
    simp [split_cons, Ne.symm hc, ih hrest]

theorem split_append_cons {mark : Char} {piece : Text} (hpiece : mark ∉ piece) (rest : Text) :
    split mark (piece ++ mark :: rest) = piece :: split mark rest := by
  induction piece with
  | nil => simp [split_cons]
  | cons c others ih =>
    obtain ⟨hc, hothers⟩ := not_or.mp (mt List.mem_cons.mpr hpiece)
    simp [split_cons, Ne.symm hc, ih hothers]

/-! ### Runs of characters -/

/-- Characters of one kind are a run of their own where none of the kind follows. -/
theorem span_append {kind : Char → Bool} {run rest : Text} (hrun : ∀ c ∈ run, kind c = true)
    (hrest : ∀ c ∈ rest.head?, kind c = false) :
    (run ++ rest).takeWhile kind = run ∧ (run ++ rest).dropWhile kind = rest := by
  have hend : rest.takeWhile kind = [] ∧ rest.dropWhile kind = rest := by
    cases rest with
    | nil => exact ⟨rfl, rfl⟩
    | cons c others => simp [hrest c rfl]
  rw [List.takeWhile_append_of_pos hrun, List.dropWhile_append_of_pos hrun, hend.1, hend.2,
    List.append_nil]
  exact ⟨rfl, rfl⟩

/-! ### Blocks -/

theorem occursIn_iff {part text : Text} : occursIn part text = true ↔ part <:+: text := by
  induction text with
  | nil => simp [occursIn, List.isEmpty_iff]
  | cons c rest ih =>
    simp [occursIn, ih, List.infix_cons_iff, List.isPrefixOf_iff_prefix]

end Text

end KeyPathQuery
