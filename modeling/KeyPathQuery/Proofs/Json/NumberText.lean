import KeyPathQuery.Json.Number
import Mathlib.Tactic.SplitIfs

/-!
The characters of written numbers. Whatever its value and its notation, a number is written with
digits, a point, signs and the letter of the exponent, and with one of them at least.

Main statements: `isNumberChar_of_mem_text` and `Number.text_ne_nil`.
-/

set_option autoImplicit false
set_option relaxedAutoImplicit false

namespace KeyPathQuery.Json

/-- A character that numbers are written with. -/
def isNumberChar (c : Char) : Bool :=
  c.isDigit || ['.', 'e', '+', '-'].contains c

theorem isDigit_of_mem_digits {n : Nat} {c : Char} (hmem : c ∈ digits n) : c.isDigit = true :=
  Nat.isDigit_of_mem_toDigits (by decide) (by decide) hmem

theorem digits_ne_nil (n : Nat) : digits n ≠ [] :=
  Nat.toDigits_ne_nil

theorem isNumberChar_of_isDigit {c : Char} (hdigit : c.isDigit = true) : isNumberChar c = true := by
  rw [isNumberChar, hdigit, Bool.true_or]

theorem isNumberChar_of_mem_integerText {value : Int} {c : Char} (hmem : c ∈ integerText value) :
    isNumberChar c = true := by
  unfold integerText at hmem
  by_cases hnegative : value < 0
  · rw [if_pos hnegative] at hmem
    rcases List.mem_cons.mp hmem with rfl | hdigit
    · decide
    · exact isNumberChar_of_isDigit (isDigit_of_mem_digits hdigit)
  · rw [if_neg hnegative] at hmem
    exact isNumberChar_of_isDigit (isDigit_of_mem_digits hmem)

theorem integerText_ne_nil (value : Int) : integerText value ≠ [] := by
  unfold integerText
  by_cases hnegative : value < 0
  · rw [if_pos hnegative]
    exact List.cons_ne_nil _ _
  · rw [if_neg hnegative]
    exact digits_ne_nil _

/-- A layout whose fixed texts are made of the characters of numbers. -/
structure FloatLayout.IsPlain (layout : FloatLayout) : Prop where
  wholeSuffix : ∀ c ∈ layout.wholeSuffix, isNumberChar c = true
  positiveExponent : ∀ c ∈ layout.positiveExponent, isNumberChar c = true
  negativeExponent : ∀ c ∈ layout.negativeExponent, isNumberChar c = true

theorem floatLayout_isPlain : floatLayout.IsPlain :=
  ⟨List.all_eq_true.mp (by decide), List.all_eq_true.mp (by decide),
    List.all_eq_true.mp (by decide)⟩

theorem isNumberChar_of_mem_pointed {layout : FloatLayout} (hlayout : layout.IsPlain)
    {significant : Text} (hdigits : ∀ c ∈ significant, c.isDigit = true) (point : Int) :
    ∀ c ∈ pointed layout significant point, isNumberChar c = true := by
  have hsignificant (c : Char) (hmem : c ∈ significant) : isNumberChar c = true :=
    isNumberChar_of_isDigit (hdigits c hmem)
  have hzeros (count : Nat) : ∀ c ∈ List.replicate count '0', isNumberChar c = true := by
    intro c hmem
    obtain rfl := List.eq_of_mem_replicate hmem
    decide
  have hpoint : ∀ c ∈ ['.'], isNumberChar c = true := List.all_eq_true.mp (by decide)
  have hzeroPoint : ∀ c ∈ "0.".toList, isNumberChar c = true := List.all_eq_true.mp (by decide)
  have htake (count : Nat) : ∀ c ∈ significant.take count, isNumberChar c = true :=
    fun c hmem ↦ hsignificant c (List.mem_of_mem_take hmem)
  have hdrop (count : Nat) : ∀ c ∈ significant.drop count, isNumberChar c = true :=
    fun c hmem ↦ hsignificant c (List.mem_of_mem_drop hmem)
  have hfraction : ∀ c ∈ (if significant.length ≤ 1 then [] else '.' :: significant.drop 1),
      isNumberChar c = true := by
    split_ifs with hone
    · simp
    · exact List.forall_mem_cons.mpr ⟨by decide, hdrop 1⟩
  have hexponent : ∀ c ∈ (if point - 1 < 0 then layout.negativeExponent
      else layout.positiveExponent), isNumberChar c = true := by
    split_ifs with hnegative
    · exact hlayout.negativeExponent
    · exact hlayout.positiveExponent
  have hpower : ∀ c ∈ digits (point - 1).natAbs, isNumberChar c = true :=
    fun c hmem ↦ isNumberChar_of_isDigit (isDigit_of_mem_digits hmem)
  unfold pointed
  by_cases hwhole : (significant.length : Int) ≤ point ∧ point ≤ layout.greatestPoint
  · simp only [if_pos hwhole, List.forall_mem_append]
    exact ⟨⟨hsignificant, hzeros _⟩, hlayout.wholeSuffix⟩
  by_cases hinside : 0 < point ∧ point ≤ layout.greatestPoint
  · simp only [if_neg hwhole, if_pos hinside, List.forall_mem_append]
    exact ⟨⟨htake _, hpoint⟩, hdrop _⟩
  by_cases hbefore : layout.leastPoint ≤ point ∧ point ≤ 0
  · simp only [if_neg hwhole, if_neg hinside, if_pos hbefore, List.forall_mem_append]
    exact ⟨⟨hzeroPoint, hzeros _⟩, hsignificant⟩
  · simp only [if_neg hwhole, if_neg hinside, if_neg hbefore, List.forall_mem_append]
    exact ⟨⟨⟨htake 1, hfraction⟩, hexponent⟩, hpower⟩

theorem pointed_ne_nil {layout : FloatLayout} (hsuffix : layout.wholeSuffix ≠ [])
    (significant : Text) (point : Int) : pointed layout significant point ≠ [] := by
  unfold pointed
  by_cases hwhole : (significant.length : Int) ≤ point ∧ point ≤ layout.greatestPoint
  · simp only [if_pos hwhole]
    exact List.append_ne_nil_of_right_ne_nil _ hsuffix
  by_cases hinside : 0 < point ∧ point ≤ layout.greatestPoint
  · simp only [if_neg hwhole, if_pos hinside]
    exact List.append_ne_nil_of_left_ne_nil (by simp) _
  by_cases hbefore : layout.leastPoint ≤ point ∧ point ≤ 0
  · simp only [if_neg hwhole, if_neg hinside, if_pos hbefore]
    exact List.append_ne_nil_of_left_ne_nil (by simp) _
  · simp only [if_neg hwhole, if_neg hinside, if_neg hbefore]
    exact List.append_ne_nil_of_right_ne_nil _ (digits_ne_nil _)

theorem isNumberChar_of_mem_magnitudeText {layout : FloatLayout} (hlayout : layout.IsPlain)
    (magnitude : Binary64) : ∀ c ∈ magnitudeText layout magnitude, isNumberChar c = true := by
  unfold magnitudeText
  split
  · exact List.forall_mem_cons.mpr ⟨by decide, hlayout.wholeSuffix⟩
  · refine isNumberChar_of_mem_pointed hlayout ?_ _
    intro c hmem
    have hwritten := (List.dropWhile_sublist _).subset (List.mem_reverse.mp hmem)
    exact isDigit_of_mem_digits (List.mem_reverse.mp hwritten)

theorem magnitudeText_ne_nil (magnitude : Binary64) : magnitudeText floatLayout magnitude ≠ [] := by
  unfold magnitudeText
  split
  · exact List.cons_ne_nil _ _
  · exact pointed_ne_nil (by decide) _ _

/-- Numbers are written with the characters of numbers. -/
theorem isNumberChar_of_mem_text (number : Number) : ∀ c ∈ number.text, isNumberChar c = true := by
  rcases number with value | ⟨_ | _, magnitude⟩
  · intro c hmem
    exact isNumberChar_of_mem_integerText hmem
  · exact isNumberChar_of_mem_magnitudeText floatLayout_isPlain magnitude
  · exact List.forall_mem_cons.mpr
      ⟨by decide, isNumberChar_of_mem_magnitudeText floatLayout_isPlain magnitude⟩

theorem Number.text_ne_nil (number : Number) : number.text ≠ [] := by
  rcases number with value | ⟨_ | _, magnitude⟩
  · exact integerText_ne_nil value
  · exact magnitudeText_ne_nil magnitude
  · exact List.cons_ne_nil _ _

end KeyPathQuery.Json
