import KeyPathQuery.Proofs.Json.NumberText
import KeyPathQuery.Proofs.Sql.Lexeme
import KeyPathQuery.Proofs.Sql.Template

/-!
The lexemes of templates. A template knows which of its pieces are literals, so its lexemes can
be told without reading its text; `Template.lexemes` tells them in every style. That a reader of
the text finds the same lexemes takes a template in order (`Template.Orderly`): code is made of
harmless characters, and behind a literal or a slot the code goes on with a character that can
belong to neither.

Main statements: `Orderly.read_fill` says that the text of an orderly template is read as its
lexemes, `Orderly.noDashes` that no comment starts in it, and `Orderly.placeholders_questionMark`
and `Orderly.placeholders_numbered` that its placeholders are one for each slot, in order.
-/

set_option autoImplicit false
set_option relaxedAutoImplicit false

namespace KeyPathQuery.Sql

/-! ### The lexemes of slots -/

/-- The lexemes of a value written as a literal. -/
def valueLexemes : Json → List Lexeme
  | .null => Lexeme.ofCode "NULL".toList
  | .boolean true => Lexeme.ofCode "TRUE".toList
  | .boolean false => Lexeme.ofCode "FALSE".toList
  | .number number => Lexeme.ofCode number.text
  | .string content => [.literal content]
  | .array items => [.literal (Json.array items).compact]
  | .object fields => [.literal (Json.object fields).compact]

/-- The lexemes of a slot by its number and its value. -/
def PlaceholderStyle.slotLexemes : PlaceholderStyle → Nat → Json → List Lexeme
  | .questionMark, _, _ => [.outside '?']
  | .numbered, place, _ => .outside '$' :: Lexeme.ofCode (Json.digits place)
  | .inline, _, value => valueLexemes value

/-- A character that stands in a slot outside of literals. -/
def isSlotChar (c : Char) : Bool :=
  c.isAlphanum || ['?', '$', '.', '+', '-'].contains c

theorem textOf_valueLexemes (value : Json) :
    Lexeme.textOf (valueLexemes value) = inlineText value := by
  cases value with
  | null | number => exact Lexeme.textOf_ofCode _
  | boolean flag => cases flag <;> exact Lexeme.textOf_ofCode _
  | string | array | object => exact List.append_nil _

theorem textOf_slotLexemes (style : PlaceholderStyle) (place : Nat) (value : Json) :
    Lexeme.textOf (style.slotLexemes place value) = style.slotText place value := by
  cases style with
  | questionMark => rfl
  | numbered => exact congrArg ('$' :: ·) (Lexeme.textOf_ofCode _)
  | inline => exact textOf_valueLexemes value

theorem isSlotChar_of_isNumberChar {c : Char} (hc : Json.isNumberChar c = true) :
    isSlotChar c = true := by
  rw [Json.isNumberChar, Bool.or_eq_true] at hc
  rcases hc with hdigit | hsign
  · simp [isSlotChar, Char.isAlphanum, hdigit]
  · have hsigns : ∀ d ∈ ['.', 'e', '+', '-'], isSlotChar d = true :=
      List.all_eq_true.mp (by decide)
    exact hsigns c (List.contains_iff_mem.mp hsign)

theorem Lexeme.mem_ofCode {chars : Text} {c : Char} :
    .outside c ∈ ofCode chars ↔ c ∈ chars := by
  simp [ofCode]

theorem isSlotChar_of_mem_valueLexemes {value : Json} {c : Char}
    (hmem : .outside c ∈ valueLexemes value) : isSlotChar c = true := by
  cases value with
  | null =>
    have hword : ∀ d ∈ "NULL".toList, isSlotChar d = true := List.all_eq_true.mp (by decide)
    exact hword c (Lexeme.mem_ofCode.mp hmem)
  | boolean flag =>
    have hwords : ∀ d ∈ "TRUE".toList ++ "FALSE".toList, isSlotChar d = true :=
      List.all_eq_true.mp (by decide)
    cases flag with
    | true => exact hwords c (List.mem_append_left _ (Lexeme.mem_ofCode.mp hmem))
    | false => exact hwords c (List.mem_append_right _ (Lexeme.mem_ofCode.mp hmem))
  | number number =>
    exact isSlotChar_of_isNumberChar
      (Json.isNumberChar_of_mem_text number c (Lexeme.mem_ofCode.mp hmem))
  | string | array | object => simp [valueLexemes] at hmem

theorem isSlotChar_of_mem_slotLexemes {style : PlaceholderStyle} {place : Nat} {value : Json}
    {c : Char} (hmem : .outside c ∈ style.slotLexemes place value) : isSlotChar c = true := by
  cases style with
  | questionMark =>
    obtain rfl := Lexeme.outside.inj (List.mem_singleton.mp hmem)
    decide
  | numbered =>
    rcases List.mem_cons.mp hmem with hdollar | hdigits
    · obtain rfl := Lexeme.outside.inj hdollar
      decide
    · exact isSlotChar_of_isNumberChar (Json.isNumberChar_of_isDigit
        (Json.isDigit_of_mem_digits (Lexeme.mem_ofCode.mp hdigits)))
  | inline => exact isSlotChar_of_mem_valueLexemes hmem

/-! ### The lexemes of templates -/

namespace Template

/-- The lexemes of a template whose slots are numbered from `place` on. -/
def lexemes (style : PlaceholderStyle) (place : Nat) : Template → List Lexeme
  | [] => []
  | .code chars :: rest => Lexeme.ofCode chars ++ lexemes style place rest
  | .literal content :: rest => .literal content :: lexemes style place rest
  | .slot value :: rest => style.slotLexemes place value ++ lexemes style (place + 1) rest

theorem lexemes_code (style : PlaceholderStyle) (place : Nat) (chars : Text) (rest : Template) :
    lexemes style place (.code chars :: rest) =
      Lexeme.ofCode chars ++ lexemes style place rest :=
  rfl

theorem lexemes_literal (style : PlaceholderStyle) (place : Nat) (content : Text)
    (rest : Template) :
    lexemes style place (.literal content :: rest) =
      .literal content :: lexemes style place rest :=
  rfl

theorem lexemes_slot (style : PlaceholderStyle) (place : Nat) (value : Json) (rest : Template) :
    lexemes style place (.slot value :: rest) =
      style.slotLexemes place value ++ lexemes style (place + 1) rest :=
  rfl

theorem lexemes_append (style : PlaceholderStyle) (first second : Template) (place : Nat) :
    (first ++ second).lexemes style place =
      first.lexemes style place ++ second.lexemes style (place + first.slots.length) := by
  induction first generalizing place with
  | nil => rfl
  | cons piece rest ih =>
    cases piece with
    | code chars => simp only [List.cons_append, lexemes_code, slots_code, ih, List.append_assoc]
    | literal content => simp only [List.cons_append, lexemes_literal, slots_literal, ih]
    | slot value =>
      simp only [List.cons_append, lexemes_slot, slots_slot, ih, List.append_assoc,
        List.length_cons]
      rw [Nat.add_assoc, Nat.add_comm 1]

/-- The text of the lexemes is the text of the template. -/
theorem textOf_lexemes (style : PlaceholderStyle) (template : Template) (place : Nat) :
    Lexeme.textOf (template.lexemes style place) = template.fill style.slotText place := by
  induction template generalizing place with
  | nil => rfl
  | cons piece rest ih =>
    cases piece with
    | code chars => rw [lexemes_code, fill, Lexeme.textOf_append, Lexeme.textOf_ofCode, ih]
    | literal content =>
      rw [lexemes_literal, fill, ← ih]
      rfl
    | slot value => rw [lexemes_slot, fill, Lexeme.textOf_append, textOf_slotLexemes, ih]

theorem notMem_lexemes_slot {c : Char} (hc : isSlotChar c = false) (style : PlaceholderStyle)
    (place : Nat) (value : Json) : .outside c ∉ lexemes style place [.slot value] := by
  rw [lexemes_slot, lexemes, List.append_nil]
  intro hmem
  exact Bool.false_ne_true (hc.symm.trans (isSlotChar_of_mem_slotLexemes hmem))

/-- Outside of literals a template has the characters of its code and those of its slots. -/
theorem mem_code_or_isSlotChar {style : PlaceholderStyle} {template : Template} {place : Nat}
    {c : Char} (hmem : .outside c ∈ template.lexemes style place) :
    (∃ chars, .code chars ∈ template ∧ c ∈ chars) ∨ isSlotChar c = true := by
  induction template generalizing place with
  | nil => cases hmem
  | cons piece rest ih =>
    have hrest (h : ∃ place, .outside c ∈ lexemes style place rest) :
        (∃ chars, .code chars ∈ piece :: rest ∧ c ∈ chars) ∨ isSlotChar c = true := by
      obtain ⟨other, hother⟩ := h
      refine (ih hother).imp_left ?_
      rintro ⟨chars, hchars, hc⟩
      exact ⟨chars, List.mem_cons_of_mem _ hchars, hc⟩
    cases piece with
    | code chars =>
      rcases List.mem_append.mp hmem with hcode | hother
      · exact .inl ⟨chars, List.mem_cons_self, Lexeme.mem_ofCode.mp hcode⟩
      · exact hrest ⟨_, hother⟩
    | literal content =>
      rcases List.mem_cons.mp hmem with hliteral | hother
      · cases hliteral
      · exact hrest ⟨_, hother⟩
    | slot value =>
      rcases List.mem_append.mp hmem with hslot | hother
      · exact .inr (isSlotChar_of_mem_slotLexemes hslot)
      · exact hrest ⟨_, hother⟩

/-! ### Templates in order -/

/-- A character of code: of an identifier, or one of a few signs. -/
def isCodeChar (c : Char) : Bool :=
  isIdentifierChar c || [' ', '.', ',', '(', ')', '=', '<', '>', '*', '-'].contains c

/-- The characters that code goes on with behind a literal or a slot. -/
def separators : Text := [' ', ',', ')', '-']

/-- Whether a piece may stand directly before another one. -/
def MayPrecede : Piece → Piece → Prop
  | .code _, _ => True
  | _, .code (c :: _) => c ∈ separators
  | _, _ => False

/-- Code of harmless characters, in which a hyphen has another character behind it. -/
structure IsOrderlyCode (chars : Text) : Prop where
  harmless : ∀ c ∈ chars, isCodeChar c = true
  hyphens : Guarded '-' '-' chars

/-- A template in order: its code is orderly, and code that starts with a separator stands
between a literal or slot and what follows it. -/
structure Orderly (template : Template) : Prop where
  apart : template.IsChain MayPrecede
  code : ∀ chars, .code chars ∈ template → IsOrderlyCode chars

variable {first second rest : Template} {chars : Text}

theorem Orderly.nil : Orderly [] :=
  ⟨.nil, by simp⟩

theorem Orderly.single {piece : Piece} (hpiece : ∀ chars, piece ≠ .code chars) :
    Orderly [piece] :=
  ⟨.singleton _, fun chars hmem ↦ absurd (List.mem_singleton.mp hmem).symm (hpiece chars)⟩

/-- Code may stand before anything. -/
theorem Orderly.cons_code (hchars : IsOrderlyCode chars) (hrest : Orderly rest) :
    Orderly (.code chars :: rest) := by
  constructor
  · exact List.isChain_cons.mpr ⟨fun _ _ ↦ trivial, hrest.apart⟩
  · intro others hmem
    rcases List.mem_cons.mp hmem with hsame | hother
    · obtain rfl := Piece.code.inj hsame
      exact hchars
    · exact hrest.code others hother

/-- A template that starts with a separator. -/
def StartsApart (template : Template) : Prop :=
  ∃ c chars rest, template = .code (c :: chars) :: rest ∧ c ∈ separators

/-- Templates in order may stand one after another, if the second one starts with a separator. -/
theorem Orderly.append (hfirst : Orderly first) (hsecond : Orderly second)
    (hstart : StartsApart second) : Orderly (first ++ second) := by
  obtain ⟨c, chars, rest, rfl, hseparator⟩ := hstart
  constructor
  · refine hfirst.apart.append hsecond.apart ?_
    rintro last - next hnext
    obtain rfl := Option.some.inj hnext
    cases last with
    | code => trivial
    | literal | slot => exact hseparator
  · intro others hmem
    rcases List.mem_append.mp hmem with hleft | hright
    · exact hfirst.code others hleft
    · exact hsecond.code others hright

/-! ### Reading what is in order -/

theorem Orderly.tail {piece : Piece} (htemplate : Orderly (piece :: rest)) : Orderly rest :=
  ⟨htemplate.apart.tail, fun chars hmem ↦ htemplate.code chars (List.mem_cons_of_mem _ hmem)⟩

/-- Behind a literal or a slot the lexemes go on with a separator, if they go on. -/
theorem Orderly.head?_lexemes {piece : Piece} (htemplate : Orderly (piece :: rest))
    (hpiece : ∀ chars, piece ≠ .code chars) {style : PlaceholderStyle} {place : Nat}
    {lexeme : Lexeme} (hhead : lexeme ∈ (lexemes style place rest).head?) :
    ∃ c ∈ separators, lexeme = .outside c := by
  cases rest with
  | nil => cases hhead
  | cons next others =>
    have hnext : MayPrecede piece next := (List.isChain_cons.mp htemplate.apart).1 next rfl
    have hcode : ∃ c chars, next = .code (c :: chars) ∧ c ∈ separators := by
      cases piece with
      | code chars => exact absurd rfl (hpiece chars)
      | literal content | slot value =>
        cases next with
        | literal | slot => exact hnext.elim
        | code chars =>
          cases chars with
          | nil => exact hnext.elim
          | cons c chars => exact ⟨c, chars, rfl, hnext⟩
    obtain ⟨c, chars, rfl, hseparator⟩ := hcode
    exact ⟨c, hseparator, (Option.some.inj hhead).symm⟩

/-- What a template in order can hold outside of literals. -/
theorem Orderly.isCodeChar_or_isSlotChar {template : Template} (htemplate : Orderly template)
    {style : PlaceholderStyle} {place : Nat} {c : Char}
    (hmem : .outside c ∈ template.lexemes style place) :
    isCodeChar c = true ∨ isSlotChar c = true := by
  rcases mem_code_or_isSlotChar hmem with ⟨chars, hchars, hc⟩ | hslot
  · exact .inl ((htemplate.code chars hchars).harmless c hc)
  · exact .inr hslot

theorem isChain_ofCode_append (chars : Text) {rest : List Lexeme}
    (hrest : rest.IsChain Lexeme.Apart) :
    (Lexeme.ofCode chars ++ rest).IsChain Lexeme.Apart := by
  induction chars with
  | nil => exact hrest
  | cons c others ih => exact List.isChain_cons.mpr ⟨fun _ _ h ↦ Bool.false_ne_true h.1, ih⟩

theorem isChain_slotLexemes_append (style : PlaceholderStyle) (place : Nat) (value : Json)
    {rest : List Lexeme} (hhead : ∀ lexeme ∈ rest.head?, lexeme.isLiteral = false)
    (hrest : rest.IsChain Lexeme.Apart) :
    (style.slotLexemes place value ++ rest).IsChain Lexeme.Apart := by
  have hliteral (content : Text) : (Lexeme.literal content :: rest).IsChain Lexeme.Apart := by
    refine List.isChain_cons.mpr ⟨?_, hrest⟩
    intro next hnext hboth
    have hnone := hhead next hnext
    rw [hboth.2] at hnone
    cases hnone
  cases style with
  | questionMark => exact isChain_ofCode_append ['?'] hrest
  | numbered => exact isChain_ofCode_append ('$' :: Json.digits place) hrest
  | inline =>
    cases value with
    | null | number => exact isChain_ofCode_append _ hrest
    | boolean flag => cases flag <;> exact isChain_ofCode_append _ hrest
    | string | array | object => exact hliteral _

theorem Orderly.isChain_lexemes {template : Template} (htemplate : Orderly template)
    (style : PlaceholderStyle) (place : Nat) :
    (template.lexemes style place).IsChain Lexeme.Apart := by
  induction template generalizing place with
  | nil => exact .nil
  | cons piece rest ih =>
    have hrest := ih htemplate.tail
    have hhead (hpiece : ∀ chars, piece ≠ .code chars) (place : Nat) :
        ∀ lexeme ∈ (lexemes style place rest).head?, lexeme.isLiteral = false := by
      intro lexeme hlexeme
      obtain ⟨c, -, rfl⟩ := htemplate.head?_lexemes hpiece hlexeme
      rfl
    cases piece with
    | code chars => exact isChain_ofCode_append chars (hrest place)
    | literal content =>
      refine List.isChain_cons.mpr ⟨?_, hrest place⟩
      intro next hnext hboth
      have hnone := hhead (by simp) place next hnext
      rw [hboth.2] at hnone
      cases hnone
    | slot value =>
      exact isChain_slotLexemes_append style place value (hhead (by simp) _) (hrest _)

theorem Orderly.readable {template : Template} (htemplate : Orderly template)
    (style : PlaceholderStyle) (place : Nat) : Lexeme.Readable (template.lexemes style place) := by
  constructor
  · intro hquote
    rcases htemplate.isCodeChar_or_isSlotChar hquote with hcode | hslot
    · exact absurd hcode (by decide)
    · exact absurd hslot (by decide)
  · exact htemplate.isChain_lexemes style place

/-- The text of a template in order is read as the lexemes of the template. -/
theorem Orderly.read_fill {template : Template} (htemplate : Orderly template)
    (style : PlaceholderStyle) (place : Nat) :
    Lexeme.read (template.fill style.slotText place) = some (template.lexemes style place) := by
  rw [← textOf_lexemes]
  exact Lexeme.read_textOf (htemplate.readable style place)

/-! ### Comments and placeholders -/

theorem Orderly.guarded_hyphens {template : Template} (htemplate : Orderly template)
    {style : PlaceholderStyle} (hstyle : style ≠ .inline) (place : Nat) :
    Guarded (.outside '-') (.outside '-') (template.lexemes style place) := by
  have hslot (place : Nat) (value : Json) : .outside '-' ∉ style.slotLexemes place value := by
    cases style with
    | inline => exact absurd rfl hstyle
    | questionMark =>
      intro hmem
      exact absurd (List.mem_singleton.mp hmem) (by decide)
    | numbered =>
      intro hmem
      have hdigits := (List.mem_cons.mp hmem).resolve_left (by decide)
      exact absurd (Json.isDigit_of_mem_digits (Lexeme.mem_ofCode.mp hdigits)) (by decide)
  induction template generalizing place with
  | nil => exact .nil
  | cons piece rest ih =>
    have hrest := ih htemplate.tail
    cases piece with
    | code chars =>
      have hchars := (htemplate.code chars List.mem_cons_self).hyphens
      exact (hchars.map fun _ _ ↦ Lexeme.outside.inj).append (hrest place)
    | literal content => exact (hrest place).cons (by simp)
    | slot value => exact (Guarded.of_notMem (hslot place value)).append (hrest _)

/-- No comment to the end of the line starts where values are left out. -/
theorem Orderly.noDashes {template : Template} (htemplate : Orderly template)
    {style : PlaceholderStyle} (hstyle : style ≠ .inline) (place : Nat) :
    ¬ [.outside '-', .outside '-'] <:+: template.lexemes style place :=
  (htemplate.guarded_hyphens hstyle place).not_neighbours

theorem IsOrderlyCode.not_mem_ofCode (hchars : IsOrderlyCode chars) {c : Char}
    (hc : isCodeChar c = false) : .outside c ∉ Lexeme.ofCode chars := by
  intro hmem
  have hcode := hchars.harmless c (Lexeme.mem_ofCode.mp hmem)
  rw [hc] at hcode
  cases hcode

theorem Orderly.placeholders_code (htemplate : Orderly (.code chars :: rest))
    (others : List Lexeme) :
    Lexeme.placeholders (Lexeme.ofCode chars ++ others) = Lexeme.placeholders others := by
  have hchars := htemplate.code chars List.mem_cons_self
  exact Lexeme.placeholders_append_of_notMem (hchars.not_mem_ofCode (by decide))
    (hchars.not_mem_ofCode (by decide)) others

theorem Orderly.placeholders_questionMark {template : Template} (htemplate : Orderly template)
    (place : Nat) :
    Lexeme.placeholders (template.lexemes .questionMark place) =
      List.replicate template.slots.length .question := by
  induction template generalizing place with
  | nil => rfl
  | cons piece rest ih =>
    have hrest := ih htemplate.tail
    cases piece with
    | code chars => rw [lexemes_code, htemplate.placeholders_code, hrest, slots_code]
    | literal content => exact hrest place
    | slot value =>
      change .question :: Lexeme.placeholders (lexemes .questionMark (place + 1) rest) = _
      rw [hrest, slots_slot, List.length_cons, List.replicate_succ]

theorem placeholders_numberedSlot (place : Nat) {others : List Lexeme}
    (hothers : Lexeme.leadingDigits others = []) :
    Lexeme.placeholders (.outside '$' :: (Lexeme.ofCode (Json.digits place) ++ others)) =
      .numbered (Json.digits place) :: Lexeme.placeholders others := by
  have hdigits (c : Char) (hc : c.isDigit = false) :
      .outside c ∉ Lexeme.ofCode (Json.digits place) := by
    intro hmem
    have hdigit := Json.isDigit_of_mem_digits (Lexeme.mem_ofCode.mp hmem)
    rw [hc] at hdigit
    cases hdigit
  rw [Lexeme.placeholders, if_neg (by decide), if_pos rfl,
    Lexeme.leadingDigits_ofCode (fun _ ↦ Json.isDigit_of_mem_digits) hothers,
    Lexeme.placeholders_append_of_notMem (hdigits '?' (by decide)) (hdigits '$' (by decide))]

/-- Behind a slot the lexemes do not go on with a digit. -/
theorem Orderly.leadingDigits_lexemes {value : Json} (htemplate : Orderly (.slot value :: rest))
    (style : PlaceholderStyle) (place : Nat) :
    Lexeme.leadingDigits (lexemes style place rest) = [] := by
  cases hlexemes : lexemes style place rest with
  | nil => rfl
  | cons lexeme others =>
    obtain ⟨c, hc, rfl⟩ := htemplate.head?_lexemes (by simp) (by rw [hlexemes]; rfl)
    have hseparators : ∀ c ∈ separators, (!c.isDigit) = true := List.all_eq_true.mp (by decide)
    rw [Lexeme.leadingDigits, if_neg (by simpa using hseparators c hc)]

theorem Orderly.placeholders_numbered {template : Template} (htemplate : Orderly template)
    (place : Nat) :
    Lexeme.placeholders (template.lexemes .numbered place) =
      (List.range' place template.slots.length).map fun number ↦
        .numbered (Json.digits number) := by
  induction template generalizing place with
  | nil => rfl
  | cons piece rest ih =>
    have hrest := ih htemplate.tail
    cases piece with
    | code chars => rw [lexemes_code, htemplate.placeholders_code, hrest, slots_code]
    | literal content => exact hrest place
    | slot value =>
      have hdigits := htemplate.leadingDigits_lexemes .numbered (place + 1)
      change Lexeme.placeholders (.outside '$' :: (Lexeme.ofCode (Json.digits place) ++
        lexemes .numbered (place + 1) rest)) = _
      rw [placeholders_numberedSlot place hdigits, hrest, slots_slot, List.length_cons,
        List.range'_succ, List.map_cons]

end Template

end KeyPathQuery.Sql
