import KeyPathQuery.Json.Reader
import KeyPathQuery.Json.Writer
import KeyPathQuery.Proofs.Json.NumberText

/-!
JSON scalars are read back from their compact text. A string comes back whatever characters it
has: the quotation mark, the backslash and the control characters are written as escapes, and each
escape is read as the character it stands for. A whole number comes back if its digits fit the
reader's 64 bits, a negative one if its magnitude does not exceed half of their range; other
numbers are read as floating-point numbers, so they are left out of `IsScalar`.

Main statements: `readValue?_compact`, with any text behind the value that does not go on with a
number, and `parse?_compact` for the whole text. A space in front changes nothing
(`parse?_space_compact`).
-/

set_option autoImplicit false
set_option relaxedAutoImplicit false

namespace KeyPathQuery.Json

/-- The scalars that the reader takes as they are: strings, truth values, the null, and the whole
numbers of 64 bits, with or without sign. -/
inductive IsScalar : Json → Prop
  | null : IsScalar .null
  | boolean (value : Bool) : IsScalar (.boolean value)
  | string (value : Text) : IsScalar (.string value)
  | integer {value : Int} (hleast : -(powerOfTwo 63 : Int) ≤ value)
    (hgreatest : value ≤ powerOfTwo 64 - 1) : IsScalar (.integer value)

/-! ### Strings -/

theorem withChar_some (c : Char) (content rest : Text) :
    withChar c (some (content, rest)) = some (c :: content, rest) := rfl

/-- Control characters are written with the last two of four hexadecimal digits. -/
theorem unit?_of_lt {number : Nat} (hlt : number < 32) :
    unit? '0' '0' (hexDigit (number / 16)) (hexDigit (number % 16)) = some number := by
  have hall : ∀ control : Fin 32,
      unit? '0' '0' (hexDigit (control / 16)) (hexDigit (control % 16)) = some control.val := by
    decide
  exact hall ⟨number, hlt⟩

/-- A character as it is written in a string is read as itself. -/
theorem readString?_escapedChar (c : Char) (rest : Text) :
    readString? (escapedChar c ++ rest) = withChar c (readString? rest) := by
  unfold escapedChar
  split
  -- The characters with a letter of their own as escape compute; the others are left.
  case h_8 hquote hbackslash _ _ _ _ _ =>
    split
    next hcontrol =>
      have hlt : c.toNat < 32 := hcontrol
      have hleading : isLeading c.toNat = false := by simp [isLeading]; omega
      have htrailing : isTrailing c.toNat = false := by simp [isTrailing]; omega
      simp only [List.cons_append, List.nil_append, readString?, unit?_of_lt hlt, hleading,
        htrailing, Bool.false_eq_true, if_false, Char.ofNat_toNat]
    next hplain =>
      have hshown : ¬ (c = '\\' ∨ c.toNat < 0x20) := not_or.mpr ⟨hbackslash, hplain⟩
      rw [List.singleton_append, readString?]
      · rw [if_neg hshown]
      all_goals simp_all
  all_goals rfl

theorem readString?_content (text rest : Text) :
    readString? (text.flatMap escapedChar ++ '"' :: rest) = some (text, rest) := by
  induction text with
  | nil => rfl
  | cons c others ih =>
    rw [List.flatMap_cons, List.append_assoc, readString?_escapedChar, ih, withChar_some]

/-! ### Whole numbers -/

/-- A text that does not go on with a number. -/
def EndsNumber (rest : Text) : Prop :=
  ∀ c ∈ rest.head?, c.isDigit = false ∧ c ∉ ['.', 'e', 'E']

theorem le_ofDigitChars (written : Text) (start : Nat) :
    start ≤ Nat.ofDigitChars 10 written start := by
  induction written generalizing start with
  | nil => exact Nat.le_refl start
  | cons c rest ih =>
    rw [Nat.ofDigitChars_cons]
    have hrest := ih (10 * start + (c.toNat - '0'.toNat))
    omega

/-- Digits are all collected if the number that they spell is within the limit. -/
theorem collect_eq {written : Text} {start : Nat}
    (hlimit : Nat.ofDigitChars 10 written start ≤ collectLimit) :
    collect start written = (Nat.ofDigitChars 10 written start, written.length, 0) := by
  induction written generalizing start with
  | nil => rfl
  | cons c rest ih =>
    have hnext : start * 10 + digitValue c = 10 * start + (c.toNat - '0'.toNat) := by
      rw [Nat.mul_comm, digitValue]
    rw [Nat.ofDigitChars_cons, ← hnext] at hlimit ⊢
    have hwithin := Nat.le_trans (le_ofDigitChars rest _) hlimit
    simp only [collect, if_pos hwithin, ih hlimit, List.length_cons]

theorem collect_digits {number : Nat} (hlimit : number ≤ collectLimit) :
    collect 0 (digits number) = (number, (digits number).length, 0) := by
  have hspelled : Nat.ofDigitChars 10 (digits number) 0 = number :=
    Nat.ofDigitChars_ten_toDigits
  rw [collect_eq (by rwa [hspelled]), hspelled]

/-- Only the number zero is written with a zero in front. -/
theorem eq_zero_of_head?_digits {number : Nat} (hhead : (digits number).head? = some '0') :
    number = 0 := by
  induction number using Nat.strongRecOn with
  | ind number ih =>
    rw [digits, Nat.toDigits_eq_if (by decide)] at hhead
    split at hhead
    next hsmall =>
      have hall : ∀ digit : Fin 10, Nat.digitChar digit = '0' → digit.val = 0 := by decide
      exact hall ⟨number, hsmall⟩ (Option.some.inj hhead)
    next hlarge =>
      have hfront : (digits (number / 10)).head? = some '0' := by
        rw [List.head?_append, List.head?_eq_some_head Nat.toDigits_ne_nil, Option.some_or] at hhead
        rw [digits, List.head?_eq_some_head Nat.toDigits_ne_nil, hhead]
      have hquotient := ih (number / 10) (by omega) hfront
      omega

theorem readWhole?_digits (number : Nat) {rest : Text} (hrest : EndsNumber rest) :
    readWhole? (digits number ++ rest) = some (digits number, rest) := by
  have hdigits : ∀ c ∈ digits number, c.isDigit = true := fun _ hmem ↦ isDigit_of_mem_digits hmem
  obtain ⟨htake, hdrop⟩ := Text.span_append hdigits fun c hc ↦ (hrest c hc).1
  simp only [readWhole?, htake, hdrop]
  split
  case h_1 hnil => exact absurd hnil (digits_ne_nil number)
  case h_2 c more hzero =>
    have hnumber := eq_zero_of_head?_digits (congrArg List.head? hzero)
    rw [hnumber] at hzero
    cases hzero
  case h_3 => rfl

theorem readFraction?_of_endsNumber {rest : Text} (hrest : EndsNumber rest) :
    readFraction? rest = some (none, rest) := by
  unfold readFraction?
  split
  · exact absurd (hrest '.' rfl).2 (by decide)
  · rfl

theorem readExponent?_of_endsNumber {rest : Text} (hrest : EndsNumber rest) :
    readExponent? rest = some (none, rest) := by
  unfold readExponent?
  split
  · next mark more =>
    have hmark := (hrest mark rfl).2
    rw [if_neg]
    rintro (rfl | rfl)
    · exact hmark (by decide)
    · exact hmark (by decide)
  · rfl

theorem readUnsigned?_digits {negative : Bool} {number : Nat} {value : Number}
    (hnumber : numberOf? negative (digits number) none none = some value) {rest : Text}
    (hrest : EndsNumber rest) :
    readUnsigned? negative (digits number ++ rest) = some (value, rest) := by
  simp only [readUnsigned?, readWhole?_digits number hrest, Option.bind_eq_bind, Option.bind_some,
    readFraction?_of_endsNumber hrest, readExponent?_of_endsNumber hrest, hnumber, Option.pure_def]

theorem numberOf?_digits {number : Nat} (hgreatest : number ≤ collectLimit) :
    numberOf? false (digits number) none none = some (.integer number) := by
  simp [numberOf?, collect_digits hgreatest]

/-- A minus sign in front is a matter of half the range. -/
theorem numberOf?_digits_of_negative {number : Nat} (hpositive : 0 < number)
    (hleast : number ≤ powerOfTwo 63) :
    numberOf? true (digits number) none none = some (.integer (-number)) := by
  have hlimit : number ≤ collectLimit := Nat.le_trans hleast (by decide)
  have hwhole : ¬ (number = 0 ∨ powerOfTwo 63 < number) := by omega
  simp [numberOf?, collect_digits hlimit, hwhole]

/-- A whole number is read back from its text. -/
theorem readNumber?_integerText {value : Int} (hleast : -(powerOfTwo 63 : Int) ≤ value)
    (hgreatest : value ≤ powerOfTwo 64 - 1) {rest : Text} (hrest : EndsNumber rest) :
    readNumber? (integerText value ++ rest) = some (.integer value, rest) := by
  unfold integerText
  by_cases hnegative : value < 0
  · have hnumber : numberOf? true (digits value.natAbs) none none = some (.integer value) := by
      rw [numberOf?_digits_of_negative (by omega) (by omega)]
      congr 2
      omega
    rw [if_pos hnegative, List.cons_append, readNumber?, readUnsigned?_digits hnumber hrest]
  · have hlimit : value.natAbs ≤ collectLimit := by
      have hpositive := powerOfTwo_pos 64
      unfold collectLimit
      omega
    have hnumber : numberOf? false (digits value.natAbs) none none = some (.integer value) := by
      rw [numberOf?_digits hlimit]
      congr 2
      omega
    rw [if_neg hnegative, readNumber?]
    · exact readUnsigned?_digits hnumber hrest
    -- A digit comes first, so the reader takes no sign.
    · intro more hminus
      obtain ⟨first, others, hdigits⟩ := List.exists_cons_of_ne_nil (digits_ne_nil value.natAbs)
      rw [hdigits, List.cons_append] at hminus
      have hfirst := isDigit_of_mem_digits (hdigits ▸ List.mem_cons_self)
      rw [(List.cons.inj hminus).1] at hfirst
      cases hfirst

/-! ### Values -/

/-- A digit or a minus sign starts a number. -/
theorem readValue?_of_numberStart {c : Char} (hc : c.isDigit = true ∨ c = '-') (fuel : Nat)
    (rest : Text) :
    readValue? (fuel + 1) (c :: rest) =
      (readNumber? (c :: rest)).map fun (result, more) ↦ (.number result, more) := by
  have hne (other : Char) (hother : other.isDigit = false ∧ other ≠ '-') : c ≠ other := by
    rintro rfl
    rcases hc with hdigit | hminus
    · rw [hother.1] at hdigit
      cases hdigit
    · exact hother.2 hminus
  have hspace : skipSpace (c :: rest) = c :: rest := by
    simp [skipSpace, hne ' ' (by decide), hne '\n' (by decide), hne '\t' (by decide),
      hne '\r' (by decide)]
  rw [readValue?, hspace]
  split
  case h_7 => rfl
  all_goals
    next heq =>
    exact absurd (List.cons.inj heq).1 (hne _ (by decide))

/-- A scalar is read back from its compact text, whatever stands behind it that does not go on
with a number. -/
theorem readValue?_compact {value : Json} (hscalar : value.IsScalar) (fuel : Nat) {rest : Text}
    (hrest : EndsNumber rest) :
    readValue? (fuel + 1) (value.compact ++ rest) = some (value, rest) := by
  cases hscalar with
  | null => rfl
  | boolean value => cases value <;> rfl
  | string text =>
    have hread := readString?_content text rest
    change readValue? (fuel + 1) ('"' :: text.flatMap escapedChar ++ ['"'] ++ rest) = _
    rw [List.append_assoc, List.singleton_append, List.cons_append]
    change (readString? _).map _ = _
    rw [hread, Option.map_some]
  | @integer value hleast hgreatest =>
    have hread := readNumber?_integerText hleast hgreatest hrest
    change readValue? (fuel + 1) (integerText value ++ rest) = _
    obtain ⟨first, others, htext⟩ := List.exists_cons_of_ne_nil (integerText_ne_nil value)
    have hfirst : first.isDigit = true ∨ first = '-' := by
      unfold integerText at htext
      split at htext
      · exact .inr (List.cons.inj htext).1.symm
      · exact .inl (isDigit_of_mem_digits (htext ▸ List.mem_cons_self))
    rw [htext, List.cons_append] at hread ⊢
    rw [readValue?_of_numberStart hfirst, hread, Option.map_some]
    rfl

theorem endsNumber_nil : EndsNumber [] := by
  intro c hc
  cases hc

theorem parse?_compact {value : Json} (hscalar : value.IsScalar) :
    parse? value.compact = some value := by
  have hread := readValue?_compact hscalar (2 * value.compact.length + 1) endsNumber_nil
  rw [List.append_nil] at hread
  rw [parse?, hread]
  rfl

/-- A space in front of a value is not looked at. -/
theorem readValue?_space (fuel : Nat) (text : Text) :
    readValue? fuel (' ' :: text) = readValue? fuel text := by
  have hspace : skipSpace (' ' :: text) = skipSpace text := rfl
  cases fuel with
  | zero => rfl
  | succ fuel => rw [readValue?, readValue?, hspace]

theorem parse?_space_compact {value : Json} (hscalar : value.IsScalar) :
    parse? (' ' :: value.compact) = some value := by
  have hread := readValue?_compact hscalar (2 * (' ' :: value.compact).length + 1) endsNumber_nil
  rw [List.append_nil] at hread
  rw [parse?, readValue?_space, hread]
  rfl

end KeyPathQuery.Json
