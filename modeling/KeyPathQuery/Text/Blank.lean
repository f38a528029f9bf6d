import KeyPathQuery.Text.CharRange
import KeyPathQuery.Text

/-!
White space, by the property White_Space of the Unicode character database, words, which hold none,
and the removal of white space from both ends of a text.

Main statements: `trim_eq_self` says that a text whose ends are no white space stays as it is,
`trim_append` that white space around a text makes no difference, and `exists_blank_ends` that
`trim` takes nothing but white space away.
-/

set_option autoImplicit false
set_option relaxedAutoImplicit false

namespace KeyPathQuery.Text

/-- The ranges of the white-space characters, in increasing order. -/
def blankRanges : List (Nat × Nat) :=
  [(0x09, 0x0D), (0x20, 0x20), (0x85, 0x85), (0xA0, 0xA0), (0x1680, 0x1680), (0x2000, 0x200A),
    (0x2028, 0x2029), (0x202F, 0x202F), (0x205F, 0x205F), (0x3000, 0x3000)]

/-- Whether a character is white space. -/
def isBlank (c : Char) : Bool :=
  inRanges blankRanges c

/-- A text without the white space at its start. -/
def trimStart (text : Text) : Text :=
  text.dropWhile isBlank

/-- A text without the white space at its end. -/
def trimEnd (text : Text) : Text :=
  (text.reverse.dropWhile isBlank).reverse

/-- A text without the white space at its two ends. -/
def trim (text : Text) : Text :=
  trimEnd (trimStart text)

theorem exists_blank_start (text : Text) :
    ∃ blank : Text, (∀ c ∈ blank, isBlank c = true) ∧ text = blank ++ trimStart text :=
  ⟨text.takeWhile isBlank, fun c hmem ↦ List.all_eq_true.mp List.all_takeWhile c hmem,
    List.takeWhile_append_dropWhile.symm⟩

theorem exists_blank_end (text : Text) :
    ∃ blank : Text, (∀ c ∈ blank, isBlank c = true) ∧ text = trimEnd text ++ blank := by
  refine ⟨(text.reverse.takeWhile isBlank).reverse, fun c hmem ↦ ?_, ?_⟩
  · exact List.all_eq_true.mp List.all_takeWhile c (List.mem_reverse.mp hmem)
  · rw [trimEnd, ← List.reverse_append, List.takeWhile_append_dropWhile, List.reverse_reverse]

/-- Trimming takes nothing but white space away. -/
theorem exists_blank_ends (text : Text) :
    ∃ before after : Text, (∀ c ∈ before, isBlank c = true) ∧ (∀ c ∈ after, isBlank c = true) ∧
      text = before ++ trim text ++ after := by
  obtain ⟨before, hbefore, hstart⟩ := exists_blank_start text
  obtain ⟨after, hafter, hend⟩ := exists_blank_end (trimStart text)
  exact ⟨before, after, hbefore, hafter, by rw [trim, List.append_assoc, ← hend, ← hstart]⟩

/-- A text that neither starts nor ends with white space stays as it is. -/
theorem trim_eq_self {text : Text} (hstart : ∀ c, text.head? = some c → isBlank c = false)
    (hend : ∀ c, text.getLast? = some c → isBlank c = false) : trim text = text := by
  have keeps : ∀ chars : Text, (∀ c, chars.head? = some c → isBlank c = false) →
      chars.dropWhile isBlank = chars := by
    intro chars hhead
    cases chars with
    | nil => rfl
    | cons c rest => simp [hhead c rfl]
  have hreverse : ∀ c, text.reverse.head? = some c → isBlank c = false := by
    intro c hc
    rw [List.head?_reverse] at hc
    exact hend c hc
  rw [trim, trimStart, keeps text hstart, trimEnd, keeps _ hreverse, List.reverse_reverse]

/-- A run of white space, maybe empty. -/
def IsBlanks (run : Text) : Prop :=
  ∀ c ∈ run, isBlank c = true

/-- White space around a text makes no difference. -/
theorem trim_append {before behind : Text} (hbefore : before.IsBlanks) (hbehind : behind.IsBlanks)
    (text : Text) : trim (before ++ text ++ behind) = trim text := by
  have hstart : trimStart (before ++ text ++ behind) = trimStart (text ++ behind) := by
    rw [trimStart, List.append_assoc, List.dropWhile_append_of_pos hbefore, trimStart]
  have hend (front : Text) : trimEnd (front ++ behind) = trimEnd front := by
    have hreverse : ∀ c ∈ behind.reverse, isBlank c = true := fun c hmem ↦
      hbehind c (List.mem_reverse.mp hmem)
    rw [trimEnd, List.reverse_append, List.dropWhile_append_of_pos hreverse, trimEnd]
  rw [trim, hstart, trimStart, List.dropWhile_append]
  split
  · next hempty =>
    have hblank : (behind ++ []).dropWhile isBlank = [] := List.dropWhile_append_of_pos hbehind
    rw [List.append_nil] at hblank
    rw [hblank, trim, trimStart, List.isEmpty_iff.mp hempty]
  · rw [hend, trim, trimStart]

/-- A word: one or more characters, none of them white space. -/
def IsWord (word : Text) : Prop :=
  word ≠ [] ∧ ∀ c ∈ word, isBlank c = false

theorem IsWord.space_notMem {word : Text} (hword : word.IsWord) : ' ' ∉ word := fun hmem ↦
  absurd (hword.2 ' ' hmem) (by decide)

/-- White space around a word is trimmed away, and nothing else. -/
theorem IsWord.trim_append {word before behind : Text} (hword : word.IsWord)
    (hbefore : before.IsBlanks) (hbehind : behind.IsBlanks) :
    trim (before ++ word ++ behind) = word := by
  rw [Text.trim_append hbefore hbehind]
  exact trim_eq_self (fun c hc ↦ hword.2 c (List.mem_of_head? hc))
    fun c hc ↦ hword.2 c (List.mem_of_getLast? hc)

/-- The characters that ASCII shows are no white space. -/
theorem isBlank_of_shown {c : Char} (hfirst : 0x20 < c.toNat) (hlast : c.toNat < 0x7F) :
    isBlank c = false := by
  rw [← Bool.not_eq_true, isBlank, inRanges_iff]
  rintro ⟨range, hrange, hlow, hhigh⟩
  simp only [blankRanges, List.mem_cons, List.not_mem_nil, or_false] at hrange
  rcases hrange with rfl | rfl | rfl | rfl | rfl | rfl | rfl | rfl | rfl | rfl
  all_goals
    dsimp only at hlow hhigh
    omega

end KeyPathQuery.Text
