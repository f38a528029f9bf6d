import KeyPathQuery.Proofs.Sql.TemplateLexemes

/-!
Values in the place of their placeholders. A statement for display has literals where a statement
for a store has placeholders. `Lexeme.putValues` does this to the lexemes that a reader finds: it
goes through them once, leaves everything as it is but the placeholders outside of literals, and
puts the next value there. It never looks into a literal, neither one that was there before nor one
that it puts in.

Main statement: `Template.Orderly.putValues_lexemes` says that a template in order, written with
placeholders and then treated so, has the lexemes of the template with its values inline.
-/

set_option autoImplicit false
set_option relaxedAutoImplicit false

namespace KeyPathQuery.Sql

namespace Lexeme

/-- The lexemes with each placeholder outside of literals replaced by the next value, written as a
literal. A placeholder for which no value is left stays. -/
def putValues : List Json → List Lexeme → List Lexeme
  | _, [] => []
  | [], lexemes => lexemes
  | value :: values, lexeme :: rest =>
    if lexeme = .outside '?' then valueLexemes value ++ putValues values rest
    else if lexeme = .outside '$' then
      valueLexemes value ++ putValues values (rest.drop (leadingDigits rest).length)
    else lexeme :: putValues (value :: values) rest
termination_by _ lexemes => lexemes.length

variable {first : List Lexeme} {value : Json} {values : List Json}

theorem putValues_nil_left (lexemes : List Lexeme) : putValues [] lexemes = lexemes := by
  cases lexemes with
  | nil => rw [putValues]
  | cons lexeme rest =>
    rw [putValues]
    simp

/-- What holds no placeholder stays. -/
theorem putValues_append_of_notMem (hquestion : .outside '?' ∉ first)
    (hdollar : .outside '$' ∉ first) (values : List Json) (second : List Lexeme) :
    putValues values (first ++ second) = first ++ putValues values second := by
  induction first with
  | nil => rfl
  | cons lexeme rest ih =>
    have hrest := ih (List.not_mem_of_not_mem_cons hquestion)
      (List.not_mem_of_not_mem_cons hdollar)
    cases values with
    | nil => rw [putValues_nil_left, putValues_nil_left]
    | cons value values =>
      rw [List.cons_append, putValues, if_neg (List.ne_of_not_mem_cons hquestion).symm,
        if_neg (List.ne_of_not_mem_cons hdollar).symm, hrest, List.cons_append]

theorem putValues_question (rest : List Lexeme) :
    putValues (value :: values) (.outside '?' :: rest) =
      valueLexemes value ++ putValues values rest := by
  rw [putValues, if_pos rfl]

/-- A numbered placeholder is replaced with all of its digits, unless another digit follows. -/
theorem putValues_numbered {digits : Text} (hdigits : ∀ c ∈ digits, c.isDigit = true)
    {rest : List Lexeme} (hrest : leadingDigits rest = []) :
    putValues (value :: values) (.outside '$' :: (ofCode digits ++ rest)) =
      valueLexemes value ++ putValues values rest := by
  have hlength : digits.length = (ofCode digits).length := (List.length_map _).symm
  rw [putValues, if_neg (by decide), if_pos rfl, leadingDigits_ofCode hdigits hrest, hlength,
    List.drop_left]

end Lexeme

namespace Template

theorem Orderly.putValues_code {chars : Text} {rest : Template}
    (htemplate : Orderly (.code chars :: rest)) (values : List Json) (others : List Lexeme) :
    Lexeme.putValues values (Lexeme.ofCode chars ++ others) =
      Lexeme.ofCode chars ++ Lexeme.putValues values others := by
  have hchars := htemplate.code chars List.mem_cons_self
  exact Lexeme.putValues_append_of_notMem (hchars.not_mem_ofCode (by decide))
    (hchars.not_mem_ofCode (by decide)) values others

/-- The placeholders of a template in order are those of its slots: with the values put there, its
lexemes are those of the template with the values inline. -/
theorem Orderly.putValues_lexemes {template : Template} (htemplate : Orderly template)
    {style : PlaceholderStyle} (hstyle : style ≠ .inline) (place other : Nat) :
    Lexeme.putValues template.slots (template.lexemes style place) =
      template.lexemes .inline other := by
  induction template generalizing place other with
  | nil => rw [lexemes, lexemes, Lexeme.putValues]
  | cons piece rest ih =>
    have hrest := ih htemplate.tail
    cases piece with
    | code chars => rw [lexemes, lexemes, slots_code, htemplate.putValues_code, hrest place other]
    | literal content =>
      have hliteral : Lexeme.putValues (slots rest)
          ([.literal content] ++ lexemes style place rest) =
            [.literal content] ++ Lexeme.putValues (slots rest) (lexemes style place rest) :=
        Lexeme.putValues_append_of_notMem (by simp) (by simp) _ _
      rw [lexemes, lexemes, slots_literal, ← List.singleton_append, hliteral, hrest place other,
        List.singleton_append]
    | slot value =>
      rw [slots_slot, lexemes, lexemes]
      cases style with
      | inline => exact absurd rfl hstyle
      | questionMark =>
        exact (Lexeme.putValues_question _).trans (congrArg _ (hrest (place + 1) (other + 1)))
      | numbered =>
        have hdigits := htemplate.leadingDigits_lexemes .numbered (place + 1)
        exact (Lexeme.putValues_numbered (fun _ ↦ Json.isDigit_of_mem_digits) hdigits).trans
          (congrArg _ (hrest (place + 1) (other + 1)))

end Template

end KeyPathQuery.Sql
