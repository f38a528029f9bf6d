import KeyPathQuery.Proofs.Toml.StringText
import KeyPathQuery.Toml.Statement

/-!
Lines of TOML are read as the statements they were written for: an assignment of a value to a key
without quotation marks, and a header of several tables with such a key. What a value is read as
must not depend on what follows its line (`IsWrittenAs`); strings and the empty array are such
values.

Main statements: `readStatements?_assignment` and `readStatements?_headerOfSeveral`.
-/

set_option autoImplicit false
set_option relaxedAutoImplicit false

namespace KeyPathQuery.Toml

variable {key text rest : Text} {value : Toml} {c : Char}

theorem skipSpace_of_head? (htext : ∀ c ∈ text.head?, isSpace c = false) : skipSpace text = text :=
  (Text.span_append (List.forall_mem_nil _) htext).2

/-! ### Keys -/

/-- A key that needs no quotation marks. -/
structure IsBareKey (key : Text) : Prop where
  ne_nil : key ≠ []
  parts : ∀ c ∈ key, isBareKeyPart c = true

namespace IsBareKey

theorem of_all (hkey : (!key.isEmpty && key.all isBareKeyPart) = true) : IsBareKey key := by
  obtain ⟨hne, hparts⟩ := Bool.and_eq_true_iff.mp hkey
  exact ⟨by simpa [List.isEmpty_iff] using hne, List.all_eq_true.mp hparts⟩

/-- A key starts with none of the characters that mean something else where a key may stand. -/
theorem ne_of_mem_head? (hkey : IsBareKey key) (hc : c ∈ (key ++ rest).head?) {d : Char}
    (hd : isBareKeyPart d = false) : c ≠ d := by
  cases key with
  | nil => exact absurd rfl hkey.ne_nil
  | cons first others =>
    obtain rfl := Option.some.inj hc
    rintro rfl
    exact Bool.false_ne_true (hd.symm.trans (hkey.parts first List.mem_cons_self))

theorem skipSpace_append (hkey : IsBareKey key) (rest : Text) :
    skipSpace (key ++ rest) = key ++ rest := by
  apply skipSpace_of_head?
  intro c hc
  have hblank : c ≠ ' ' := hkey.ne_of_mem_head? hc (by decide)
  have htab : c ≠ '\t' := hkey.ne_of_mem_head? hc (by decide)
  simp [isSpace, hblank, htab]

theorem readKeyPart? (hkey : IsBareKey key) (hrest : ∀ c ∈ rest.head?, isBareKeyPart c = false) :
    readKeyPart? (key ++ rest) = some (key, rest) := by
  obtain ⟨htake, hdrop⟩ := Text.span_append hkey.parts hrest
  have hempty : key.isEmpty = false := by simpa [List.isEmpty_iff] using hkey.ne_nil
  rw [Toml.readKeyPart?]
  · simp only [htake, hdrop, hempty]
    rfl
  · intro others heq
    exact hkey.ne_of_mem_head? (c := '"') (by rw [heq]; rfl) (by decide) rfl
  · intro others heq
    exact hkey.ne_of_mem_head? (c := '\'') (by rw [heq]; rfl) (by decide) rfl

/-- A key by itself is read as the only part of a dotted one. -/
theorem readKey? (hkey : IsBareKey key) (hrest : ∀ c ∈ rest.head?, isBareKeyPart c = false)
    (hpoint : (skipSpace rest).head? ≠ some '.') :
    readKey? (key ++ rest) = some ([key], skipSpace rest) := by
  have hparts : readKeyParts? (key ++ rest) = some ([key], skipSpace rest) := by
    rw [readKeyParts?, hkey.skipSpace_append, hkey.readKeyPart? hrest]
    dsimp only
    split
    · next others heq => exact absurd (by rw [heq]; rfl) hpoint
    · rfl
  rw [Toml.readKey?, hparts]
  exact if_pos (by decide : 1 < nestingLimit)

/-- No line ends before a key. -/
theorem afterLine?_append (hkey : IsBareKey key) (rest : Text) :
    afterLine? (key ++ rest) = none := by
  have hcomment : skipComment (key ++ rest) = key ++ rest := by
    unfold skipComment
    split
    · next others heq =>
      exact absurd rfl (hkey.ne_of_mem_head? (c := '#') (by rw [heq]; rfl) (by decide))
    · rfl
  have hbreak : afterLineBreak? (key ++ rest) = none := by
    unfold afterLineBreak?
    split
    · next others heq =>
      exact absurd rfl (hkey.ne_of_mem_head? (c := '\n') (by rw [heq]; rfl) (by decide))
    · next others heq =>
      exact absurd rfl (hkey.ne_of_mem_head? (c := '\r') (by rw [heq]; rfl) (by decide))
    · rfl
  unfold afterLine?
  rw [hkey.skipSpace_append, hcomment]
  split
  · next heq => exact absurd (List.append_eq_nil_iff.mp heq).1 hkey.ne_nil
  · exact hbreak

end IsBareKey

/-! ### Values -/

/-- A text that is read as a value where a line ends behind it. -/
structure IsWrittenAs (text : Text) (value : Toml) : Prop where
  skipSpace : ∀ rest, skipSpace (text ++ '\n' :: rest) = text ++ '\n' :: rest
  readValue? : ∀ rest,
    readValue? (nestingLimit - 1) (text ++ '\n' :: rest) = some (value, '\n' :: rest)

/-- Every string starts with one of two marks. -/
theorem exists_mark_of_readString? {read : Text × Text} (hread : readString? text = some read) :
    ∃ mark others, (mark = '"' ∨ mark = '\'') ∧ text = mark :: others := by
  unfold readString? at hread
  split at hread
  case h_5 => cases hread
  case h_1 | h_2 => exact ⟨'"', _, .inl rfl, rfl⟩
  case h_3 | h_4 => exact ⟨'\'', _, .inr rfl, rfl⟩

theorem isWrittenAs_stringText (text : Text) : IsWrittenAs (stringText text) (.string text) := by
  have hread (rest : Text) :
      readString? (stringText text ++ '\n' :: rest) = some (text, '\n' :: rest) :=
    readString?_stringText text (by simp) (by simp)
  constructor
  · intro rest
    obtain ⟨mark, others, hmark, htext⟩ := exists_mark_of_readString? (hread rest)
    apply skipSpace_of_head?
    intro c hc
    rw [htext] at hc
    obtain rfl := Option.some.inj hc
    rcases hmark with rfl | rfl <;> rfl
  · intro rest
    obtain ⟨mark, others, hmark, htext⟩ := exists_mark_of_readString? (hread rest)
    have hvalue : readValue? (nestingLimit - 1) (mark :: others) =
        (readString? (mark :: others)).map fun read ↦ (.string read.1, read.2) := by
      rcases hmark with rfl | rfl <;> rfl
    rw [htext, hvalue, ← htext, hread]
    rfl

theorem isWrittenAs_emptyArray : IsWrittenAs "[]".toList (.array []) := by
  constructor
  · exact fun rest ↦ rfl
  · intro rest
    have hlines : skipLines (']' :: '\n' :: rest) = ']' :: '\n' :: rest := by
      rw [skipLines]
      exact if_neg (Nat.lt_irrefl _)
    have hitems : readItems? (readValue? (nestingLimit - 2)) (']' :: '\n' :: rest) =
        some ([], '\n' :: rest) := by
      rw [readItems?, hlines]
      rfl
    have hvalue : readValue? (nestingLimit - 1) ("[]".toList ++ '\n' :: rest) =
        (readItems? (readValue? (nestingLimit - 2)) (']' :: '\n' :: rest)).map
          fun read ↦ (.array read.1, read.2) := rfl
    rw [hvalue, hitems]
    rfl

/-! ### Lines -/

/-- A statement where a line starts is the first one. -/
theorem readStatements?_of_statement {statement : Statement} (htext : text ≠ [])
    (hspace : skipSpace text = text) (hline : afterLine? text = none)
    (hread : readStatement? text = some (statement, rest)) (hlength : rest.length < text.length) :
    readStatements? text = (readStatements? rest).map (statement :: ·) := by
  rw [readStatements?, hspace]
  split
  · exact absurd rfl htext
  · simp only [hline, hread, if_pos hlength]

theorem readStatements?_lineBreak (rest : Text) :
    readStatements? ('\n' :: rest) = readStatements? rest := by
  have hline : afterLine? ('\n' :: rest) = some rest := rfl
  have hspace : skipSpace ('\n' :: rest) = '\n' :: rest := rfl
  rw [readStatements?, hspace]
  simp [hline]

theorem readStatement?_assignment (hkey : IsBareKey key) (hvalue : IsWrittenAs text value)
    (rest : Text) :
    readStatement? (key ++ (" = ".toList ++ (text ++ '\n' :: rest))) =
      some (.assignment [key] value, rest) := by
  have hname : readKey? (key ++ (" = ".toList ++ (text ++ '\n' :: rest))) =
      some ([key], '=' :: ' ' :: (text ++ '\n' :: rest)) :=
    hkey.readKey? (by simp; decide) (by simp [skipSpace, isSpace])
  have hassignment : readAssignment? (readValue? (nestingLimit - 1))
      (key ++ (" = ".toList ++ (text ++ '\n' :: rest))) =
        some (([key], value), '\n' :: rest) := by
    have hafter : skipSpace (' ' :: (text ++ '\n' :: rest)) = text ++ '\n' :: rest :=
      hvalue.skipSpace rest
    rw [readAssignment?, hname]
    simp only [hafter, hvalue.readValue?, Option.map_some]
    rfl
  rw [readStatement?]
  · rw [hassignment]
    rfl
  · intro others heq
    exact hkey.ne_of_mem_head? (c := '[') (by rw [heq]; rfl) (by decide) rfl
  · intro others heq
    exact hkey.ne_of_mem_head? (c := '[') (by rw [heq]; rfl) (by decide) rfl

/-- An assignment on a line of its own. -/
theorem readStatements?_assignment (hkey : IsBareKey key) (hvalue : IsWrittenAs text value)
    (rest : Text) :
    readStatements? (key ++ (" = ".toList ++ (text ++ '\n' :: rest))) =
      (readStatements? rest).map (.assignment [key] value :: ·) := by
  refine readStatements?_of_statement ?_ (hkey.skipSpace_append _) (hkey.afterLine?_append _)
    (readStatement?_assignment hkey hvalue rest) ?_
  · exact fun hnil ↦ hkey.ne_nil (List.append_eq_nil_iff.mp hnil).1
  · simp only [List.length_append, List.length_cons]
    omega

/-- A header on a line of its own. -/
theorem readStatements?_headerOfSeveral (hkey : IsBareKey key) (rest : Text) :
    readStatements? ("[[".toList ++ (key ++ ("]]\n".toList ++ rest))) =
      (readStatements? rest).map (.headerOfSeveral [key] :: ·) := by
  have hname : readKey? (key ++ ("]]\n".toList ++ rest)) =
      some ([key], ']' :: ']' :: '\n' :: rest) :=
    hkey.readKey? (by simp; decide) (by simp [skipSpace, isSpace])
  have hread : readStatement? ("[[".toList ++ (key ++ ("]]\n".toList ++ rest))) =
      some (.headerOfSeveral [key], rest) := by
    change readStatement? ('[' :: '[' :: (key ++ ("]]\n".toList ++ rest))) = _
    rw [readStatement?, hname]
    rfl
  refine readStatements?_of_statement (List.cons_ne_nil _ _) rfl rfl hread ?_
  simp only [List.length_append]
  have hmark : "[[".toList.length = 2 := rfl
  omega

end KeyPathQuery.Toml
