import KeyPathQuery.Identifier
import KeyPathQuery.Proofs.Sql.TemplateLexemes
import KeyPathQuery.Sql.Operator

/-!
The tokens of the parts that statements are written from. Whether a part is read as a token of its
own depends on the character behind it: a word goes on with letters and a string with a quote. So
a part is read as some tokens before characters of a class (`Token.ReadAs`).

The stores disagree on the characters of words, on the meaning of backslashes and on placeholders.
They agree on identifiers and on the signs of statements, and on string literals in which a
backslash changes nothing (`KeepsBackslashes`).

Main statements: `readAs_word`, `readAs_binarySign` and `readAs_quote`.
-/

set_option autoImplicit false
set_option relaxedAutoImplicit false

namespace KeyPathQuery.Sql

namespace Token

variable {dialect : Dialect} {grammar : Grammar} {before : Char → Prop} {rest : Text} {c : Char}

/-! ### Parts of a text -/

/-- A text that goes on with a character of a class, unless it is at its end. -/
def GoesOnWith (kind : Char → Prop) (rest : Text) : Prop :=
  ∀ c ∈ rest.head?, kind c

/-- A part of a text is read as some tokens if a character of a class is behind it. -/
def ReadAs (grammar : Grammar) (before : Char → Prop) (part : Text) (tokens : List Token) : Prop :=
  ∀ rest, GoesOnWith before rest →
    ofText? grammar (part ++ rest) = (ofText? grammar rest).map (tokens ++ ·)

/-- The class of all characters. -/
def anything : Char → Prop := fun _ ↦ True

theorem goesOnWith_anything (rest : Text) : GoesOnWith anything rest :=
  fun _ _ ↦ trivial

theorem goesOnWith_cons {kind : Char → Prop} (hc : kind c) (rest : Text) :
    GoesOnWith kind (c :: rest) := by
  rintro d hd
  obtain rfl := Option.some.inj hd
  exact hc

/-! ### One token -/

/-- A token at the start of a text is the first one, if no space and no comment starts there. -/
theorem ofText?_of_next? {text : Text} {token : Token} (hspace : afterSpace? grammar text = none)
    (hblank : ∀ c ∈ text.head?, (Text.isBlank c && !grammar.isWordStart c) = false)
    (hnext : next? grammar text = some (token, rest)) (hlength : rest.length < text.length) :
    ofText? grammar text = (ofText? grammar rest).map ([token] ++ ·) := by
  cases text with
  | nil => simp at hlength
  | cons c others =>
    have hc := hblank c rfl
    rw [ofText?]
    simp only [List.isEmpty_cons, hspace, hnext, List.head?_cons, Option.map_some, hc,
      Option.getD_some]
    rw [if_neg Bool.false_ne_true, if_neg Bool.false_ne_true, if_pos hlength]
    rfl

theorem ofText?_space (rest : Text) : ofText? grammar (' ' :: rest) = ofText? grammar rest := by
  rw [ofText?]
  simp [afterSpace?]

/-- A part that is not blank and starts no comment is read as its first token. -/
theorem readAs_of_next? {chars : Text} {token : Token}
    (hblank : (Text.isBlank c && !grammar.isWordStart c) = false)
    (hspace : ∀ rest, GoesOnWith before rest → afterSpace? grammar (c :: chars ++ rest) = none)
    (hnext : ∀ rest, GoesOnWith before rest →
      next? grammar (c :: chars ++ rest) = some (token, rest)) :
    ReadAs grammar before (c :: chars) [token] := by
  intro rest hrest
  refine ofText?_of_next? (hspace rest hrest) ?_ (hnext rest hrest) ?_
  · intro d hd
    obtain rfl := Option.some.inj hd
    exact hblank
  · rw [List.cons_append, List.length_cons, List.length_append]
    omega

/-! ### Signs -/

/-- A sign of punctuation is read whatever follows it. -/
theorem readAs_punctuation (dialect : Dialect) (hc : c ∈ ['(', ')', ',', '*']) :
    ReadAs (.ofDialect dialect) anything [c] [.sign [c]] := by
  have hcases : c = '(' ∨ c = ')' ∨ c = ',' ∨ c = '*' := by simpa using hc
  rcases hcases with rfl | rfl | rfl | rfl
  all_goals
    refine readAs_of_next? rfl (fun rest _ ↦ rfl) fun rest _ ↦ ?_
    cases dialect <;> rfl

/-- The signs of comparisons and the arrows. -/
def binarySigns : List Text :=
  ["=", "<>", "<", "<=", ">", ">=", "->", "->>"].map String.toList

/-- What stands behind a sign between two operands: a space, or the quote of a literal. -/
def startsOperand (c : Char) : Prop :=
  c = ' ' ∨ c = '\''

theorem next?_binarySign (dialect : Dialect) {sign : Text} (hsign : sign ∈ binarySigns)
    (hrest : GoesOnWith startsOperand rest) :
    next? (.ofDialect dialect) (sign ++ rest) = some (.sign sign, rest) := by
  simp only [binarySigns, List.map_cons, List.map_nil, List.mem_cons, List.not_mem_nil,
    or_false] at hsign
  have hcases : rest = [] ∨ (∃ others, rest = ' ' :: others) ∨ ∃ others, rest = '\'' :: others := by
    cases rest with
    | nil => exact .inl rfl
    | cons c others => rcases hrest c rfl with rfl | rfl <;> simp
  rcases hcases with rfl | ⟨others, rfl⟩ | ⟨others, rfl⟩
  all_goals
    rcases hsign with rfl | rfl | rfl | rfl | rfl | rfl | rfl | rfl
    all_goals cases dialect <;> rfl

/-- A sign between two operands is read as one token. -/
theorem readAs_binarySign (dialect : Dialect) {sign : Text} (hsign : sign ∈ binarySigns) :
    ReadAs (.ofDialect dialect) startsOperand sign [.sign sign] := by
  have hnext (rest : Text) (hrest : GoesOnWith startsOperand rest) :=
    next?_binarySign dialect hsign hrest
  simp only [binarySigns, List.map_cons, List.map_nil, List.mem_cons, List.not_mem_nil,
    or_false] at hsign
  rcases hsign with rfl | rfl | rfl | rfl | rfl | rfl | rfl | rfl
  all_goals exact readAs_of_next? rfl (fun rest _ ↦ rfl) hnext

/-! ### Words -/

/-- The characters behind a name, which end it in every grammar. -/
def endsWord (c : Char) : Prop :=
  c ∈ [' ', ',', ')', '-', '(', '.']

theorem isWordPart_of_endsWord (dialect : Dialect) (hc : endsWord c) :
    (Grammar.ofDialect dialect).isWordPart c = false := by
  have hnone : ∀ d ∈ [' ', ',', ')', '-', '(', '.'],
      (!(Grammar.ofDialect dialect).isWordPart d) = true :=
    List.all_eq_true.mp (by cases dialect <;> decide)
  simpa using hnone c hc

/-- The letters lie between the capital A and the small z. -/
theorem toNat_of_isAlpha (hc : c.isAlpha = true) : 65 ≤ c.toNat ∧ c.toNat ≤ 122 := by
  change (decide ('A' ≤ c ∧ c ≤ 'Z') || (decide ('a' ≤ c) && decide (c ≤ 'z'))) = true at hc
  simp only [Bool.or_eq_true, Bool.and_eq_true, decide_eq_true_eq] at hc
  rcases hc with ⟨hfirst, hlast⟩ | ⟨hfirst, hlast⟩
  · have hfirst : 65 ≤ c.toNat := hfirst
    have hlast : c.toNat ≤ 90 := hlast
    omega
  · have hfirst : 97 ≤ c.toNat := hfirst
    exact ⟨by omega, hlast⟩

theorem isAlphabetic_of_isAlpha (hc : c.isAlpha = true) : Text.isAlphabetic c = true := by
  have hbounds := toNat_of_isAlpha hc
  have hascii : c.toNat < 0x80 := by omega
  rw [Text.isAlphabetic, if_pos hascii, hc]

/-- Every grammar takes an identifier for a word. -/
theorem isWordPart_of_isIdentifierChar (dialect : Dialect) (hc : isIdentifierChar c = true) :
    (Grammar.ofDialect dialect).isWordPart c = true := by
  have hcases : c.isAlpha = true ∨ c.isDigit = true ∨ c = '_' := by
    simpa [isIdentifierChar, Char.isAlphanum, or_assoc] using hc
  rcases hcases with halpha | hdigit | rfl
  · have halphabetic := isAlphabetic_of_isAlpha halpha
    cases dialect <;> simp [Grammar.ofDialect, Grammar.mysql, Grammar.postgres, Grammar.standard,
      Char.isAlphanum, halpha, halphabetic]
  · cases dialect <;> simp [Grammar.ofDialect, Grammar.mysql, Grammar.postgres, Grammar.standard,
      Char.isAlphanum, hdigit]
  · cases dialect <;> rfl

theorem isWordStart_of_isIdentifierStart (dialect : Dialect) (hc : isIdentifierStart c = true) :
    (Grammar.ofDialect dialect).isWordStart c = true := by
  have hcases : c.isAlpha = true ∨ c = '_' := by simpa [isIdentifierStart] using hc
  rcases hcases with halpha | rfl
  · have halphabetic := isAlphabetic_of_isAlpha halpha
    cases dialect <;> simp [Grammar.ofDialect, Grammar.mysql, Grammar.postgres, Grammar.standard,
      halpha, halphabetic]
  · cases dialect <;> rfl

/-- No sign starts as an identifier does. -/
theorem find?_signs_of_isIdentifierStart (hc : isIdentifierStart c = true) (rest : Text) :
    signs.find? (·.isPrefixOf (c :: rest)) = none := by
  have hsigns : ∀ sign ∈ signs, sign.head?.any (!isIdentifierStart ·) = true :=
    List.all_eq_true.mp (by decide)
  rw [List.find?_eq_none]
  intro sign hsign hstarts
  have hstart := hsigns sign hsign
  cases sign with
  | nil => cases hstart
  | cons first others =>
    rw [List.isPrefixOf, Bool.and_eq_true, beq_iff_eq] at hstarts
    rw [List.head?_cons, Option.any_some, hstarts.1, hc] at hstart
    cases hstart

theorem ne_of_isIdentifierStart (hc : isIdentifierStart c = true) {d : Char}
    (hd : isIdentifierStart d = false) : c ≠ d := by
  rintro rfl
  exact Bool.false_ne_true (hd.symm.trans hc)

theorem not_isDigit_of_isIdentifierStart (hc : isIdentifierStart c = true) : c.isDigit = false := by
  rw [Bool.eq_false_iff]
  intro hdigit
  have hcases : c.isAlpha = true ∨ c = '_' := by simpa [isIdentifierStart] using hc
  rcases hcases with halpha | rfl
  · have hfirst := (toNat_of_isAlpha halpha).1
    change (decide ('0' ≤ c) && decide (c ≤ '9')) = true at hdigit
    simp only [Bool.and_eq_true, decide_eq_true_eq] at hdigit
    have hlast : c.toNat ≤ 57 := hdigit.2
    omega
  · exact absurd hdigit (by decide)

/-- What ends a word in one place ends it there and not before. -/
theorem span_isWordPart (dialect : Dialect) {name : Text} (hname : isIdentifier name = true)
    (hrest : GoesOnWith endsWord rest) :
    (name ++ rest).takeWhile (Grammar.ofDialect dialect).isWordPart = name ∧
      (name ++ rest).dropWhile (Grammar.ofDialect dialect).isWordPart = rest := by
  have hwhole : ∀ c ∈ name, (Grammar.ofDialect dialect).isWordPart c = true :=
    fun c hmem ↦ isWordPart_of_isIdentifierChar dialect (isIdentifierChar_of_mem hname hmem)
  exact Text.span_append hwhole fun c hc ↦ isWordPart_of_endsWord dialect (hrest c hc)

theorem next?_word (dialect : Dialect) {name : Text} (hname : isIdentifier name = true)
    (hrest : GoesOnWith endsWord rest) :
    next? (.ofDialect dialect) (name ++ rest) = some (.word name, rest) := by
  obtain ⟨htake, hdrop⟩ := span_isWordPart dialect hname hrest
  obtain ⟨c, chars, rfl, hstart, hchars⟩ := isIdentifier_iff.mp hname
  have hquote : (chars ++ rest).head? ≠ some '\'' := by
    intro hhead
    cases chars with
    | nil => exact absurd (hrest '\'' hhead) (by simp [endsWord])
    | cons d others =>
      obtain rfl := Option.some.inj hhead
      exact absurd (hchars '\'' List.mem_cons_self) (by decide)
  have hnames : (Grammar.ofDialect dialect).nameQuotes.contains c = false := by
    rw [List.contains_eq_mem, decide_eq_false_iff_not]
    intro hmem
    have hmarks : ∀ d ∈ (Grammar.ofDialect dialect).nameQuotes, (!isIdentifierStart d) = true :=
      List.all_eq_true.mp (by cases dialect <;> decide)
    exact ne_of_isIdentifierStart hstart (by simpa using hmarks c hmem) rfl
  have hdigit : c.isDigit = false := not_isDigit_of_isIdentifierStart hstart
  have hword := isWordStart_of_isIdentifierStart dialect hstart
  have hne (d : Char) (hd : isIdentifierStart d = false) : (c == d) = false :=
    beq_false_of_ne (ne_of_isIdentifierStart hstart hd)
  rw [List.cons_append] at htake hdrop ⊢
  rw [next?]
  · simp only [beq_false_of_ne hquote, hnames, hdigit, hne '"' (by decide), hne '.' (by decide),
      hne '?' (by decide), find?_signs_of_isIdentifierStart hstart, hword, htake, hdrop,
      Bool.and_false, Bool.false_and, Bool.or_false, Bool.false_eq_true, if_false, if_true]
  · exact ne_of_isIdentifierStart hstart (by decide)

/-- An identifier is read as a word. -/
theorem readAs_word (dialect : Dialect) {name : Text} (hname : isIdentifier name = true) :
    ReadAs (.ofDialect dialect) endsWord name [.word name] := by
  have hnext (rest : Text) (hrest : GoesOnWith endsWord rest) := next?_word dialect hname hrest
  obtain ⟨c, chars, rfl, hstart, -⟩ := isIdentifier_iff.mp hname
  have hword := isWordStart_of_isIdentifierStart dialect hstart
  refine readAs_of_next? (by rw [hword, Bool.not_true, Bool.and_false]) (fun rest _ ↦ ?_) hnext
  rw [List.cons_append, afterSpace?]
  all_goals
    intro others heq
    exact ne_of_isIdentifierStart hstart (by decide) (List.cons.inj heq).1

/-- A point is read by itself before an identifier. -/
theorem readAs_point (dialect : Dialect) :
    ReadAs (.ofDialect dialect) (isIdentifierStart · = true) ['.'] [.sign ['.']] := by
  refine readAs_of_next? rfl (fun rest _ ↦ rfl) fun rest hrest ↦ ?_
  have hdigits : rest.takeWhile Char.isDigit = [] := by
    cases rest with
    | nil => rfl
    | cons c others => simp [not_isDigit_of_isIdentifierStart (hrest c rfl)]
  have hnumber : next? (.ofDialect dialect) ('.' :: rest) =
      some (readNumber (.ofDialect dialect) ('.' :: rest)) := by
    cases dialect <;> rfl
  have hpoint : '.'.isDigit = false := by decide
  rw [List.singleton_append, hnumber]
  simp [readNumber, hpoint, hdigits]

/-! ### Separators -/

theorem mem_separators_iff : c ∈ Template.separators ↔ c = ' ' ∨ c = ',' ∨ c = ')' ∨ c = '-' := by
  simp [Template.separators]

theorem endsWord_of_mem_separators (hc : c ∈ Template.separators) : endsWord c := by
  rcases mem_separators_iff.mp hc with rfl | rfl | rfl | rfl
  all_goals simp [endsWord]

/-! ### Numbers -/

theorem readNumber_digits (dialect : Dialect) {digits : Text} (hne : digits ≠ [])
    (hdigits : ∀ c ∈ digits, c.isDigit = true) (hrest : GoesOnWith (· ∈ Template.separators) rest) :
    readNumber (.ofDialect dialect) (digits ++ rest) = (.number, rest) := by
  have hend : (∀ c ∈ rest.head?, c.isDigit = false) ∧ rest.head? ≠ some '.' ∧
      afterExponent rest = rest ∧
      (rest.head?.map (Grammar.ofDialect dialect).isWordPart).getD false = false := by
    cases rest with
    | nil => simp [afterExponent]
    | cons c others =>
      rcases mem_separators_iff.mp (hrest c rfl) with rfl | rfl | rfl | rfl
      all_goals
        have hword : (Grammar.ofDialect dialect).isWordPart _ = false :=
          isWordPart_of_endsWord dialect (endsWord_of_mem_separators (hrest _ rfl))
        simp [afterExponent, hword, Char.isDigit]
  obtain ⟨hdigit, hpoint, hexponent, hword⟩ := hend
  obtain ⟨hwhole, hafter⟩ := Text.span_append hdigits hdigit
  obtain ⟨htake, hdrop⟩ := Text.span_append (List.forall_mem_nil _) hdigit
  rw [List.nil_append] at htake hdrop
  simp [readNumber, hwhole, hafter, hpoint, htake, hdrop, hexponent, hword, hne]

/-- A digit by itself is a number. -/
theorem readAs_digit (dialect : Dialect) (hc : c ∈ "0123456789".toList) :
    ReadAs (.ofDialect dialect) (· ∈ Template.separators) [c] [.number] := by
  have hcases : c = '0' ∨ c = '1' ∨ c = '2' ∨ c = '3' ∨ c = '4' ∨ c = '5' ∨ c = '6' ∨ c = '7' ∨
      c = '8' ∨ c = '9' := by
    change c ∈ ['0', '1', '2', '3', '4', '5', '6', '7', '8', '9'] at hc
    simpa only [List.mem_cons, List.not_mem_nil, or_false] using hc
  have hdigit : c.isDigit = true := by
    rcases hcases with rfl | rfl | rfl | rfl | rfl | rfl | rfl | rfl | rfl | rfl <;> rfl
  have hnext (rest : Text) (hrest : GoesOnWith (· ∈ Template.separators) rest) :
      next? (.ofDialect dialect) ([c] ++ rest) = some (.number, rest) := by
    rw [← readNumber_digits dialect (List.cons_ne_nil c [])
      (List.forall_mem_singleton.mpr hdigit) hrest]
    rcases hcases with rfl | rfl | rfl | rfl | rfl | rfl | rfl | rfl | rfl | rfl
    all_goals cases dialect <;> rfl
  rcases hcases with rfl | rfl | rfl | rfl | rfl | rfl | rfl | rfl | rfl | rfl
  all_goals exact readAs_of_next? rfl (fun rest _ ↦ rfl) hnext

/-! ### Strings -/

/-- A text in which a backslash stands only before a character that a pattern takes for itself. No
store takes anything but these two characters for such a pair in a literal. -/
inductive KeepsBackslashes : Text → Prop
  | nil : KeepsBackslashes []
  | other {c : Char} {rest : Text} (hc : c ≠ '\\') (hrest : KeepsBackslashes rest) :
    KeepsBackslashes (c :: rest)
  | wildcard {c : Char} {rest : Text} (hc : c = '%' ∨ c = '_') (hrest : KeepsBackslashes rest) :
    KeepsBackslashes ('\\' :: c :: rest)

theorem KeepsBackslashes.of_notMem {content : Text} (hcontent : '\\' ∉ content) :
    KeepsBackslashes content := by
  induction content with
  | nil => exact .nil
  | cons c rest ih =>
    obtain ⟨hc, hrest⟩ := not_or.mp (mt List.mem_cons.mpr hcontent)
    exact .other (Ne.symm hc) (ih hrest)

theorem afterQuoted?_cons {mark : Char} {backslash : Bool} (hmark : c ≠ mark)
    (hbackslash : (backslash && c == '\\') = false) :
    afterQuoted? mark backslash (c :: rest) = afterQuoted? mark backslash rest := by
  rw [afterQuoted?.eq_def]
  simp only [hmark, hbackslash, Bool.false_eq_true, if_false]

theorem doubleQuotes_cons_of_ne {others : Text} (hc : c ≠ '\'') :
    doubleQuotes (c :: others) = c :: doubleQuotes others := by
  simp [doubleQuotes, hc]

theorem afterQuoted?_of_keepsBackslashes {content : Text} (hcontent : KeepsBackslashes content)
    (backslash : Bool) (hrest : GoesOnWith (· ≠ '\'') rest) :
    afterQuoted? '\'' backslash (doubleQuotes content ++ '\'' :: rest) = some rest := by
  induction hcontent with
  | nil =>
    cases rest with
    | nil => rfl
    | cons c others =>
      have hc : c ≠ '\'' := hrest c rfl
      simp [doubleQuotes, afterQuoted?, hc]
  | @other c others hc _ ih =>
    by_cases hquote : c = '\''
    · subst hquote
      simpa [doubleQuotes, afterQuoted?] using ih
    · rw [doubleQuotes_cons_of_ne hquote, List.cons_append, afterQuoted?_cons hquote (by simp [hc]),
        ih]
  | @wildcard c others hc _ ih =>
    have hquote : c ≠ '\'' := by rcases hc with rfl | rfl <;> decide
    have hplain : c ≠ '\\' := by rcases hc with rfl | rfl <;> decide
    rw [doubleQuotes_cons_of_ne (by decide), doubleQuotes_cons_of_ne hquote, List.cons_append,
      List.cons_append]
    cases backslash with
    | true => simpa [afterQuoted?] using ih
    | false =>
      rw [afterQuoted?_cons (by decide) (Bool.false_and _),
        afterQuoted?_cons hquote (Bool.false_and _), ih]

/-- A string literal is one token. -/
theorem readAs_quote (dialect : Dialect) {content : Text} (hcontent : KeepsBackslashes content) :
    ReadAs (.ofDialect dialect) (· ≠ '\'') (quote content) [.string] := by
  have hstart : quote content = '\'' :: (doubleQuotes content ++ ['\'']) := rfl
  rw [hstart]
  refine readAs_of_next? rfl (fun rest _ ↦ rfl) fun rest hrest ↦ ?_
  rw [List.cons_append, List.append_assoc, List.singleton_append, next?,
    afterQuoted?_of_keepsBackslashes hcontent _ hrest]
  rfl

/-! ### Placeholders -/

theorem not_placeholderChar_of_mem_separators (hc : c ∈ Template.separators) :
    (Text.isAlphabetic c || c.isDigit || c == '_') = false := by
  rcases mem_separators_iff.mp hc with rfl | rfl | rfl | rfl
  all_goals decide

/-- A placeholder of the style of a dialect is one token. -/
theorem readAs_placeholder (dialect : Dialect) (place : Nat) (value : Json) :
    ReadAs (.ofDialect dialect) (· ∈ Template.separators)
      ((PlaceholderStyle.ofDialect dialect).slotText place value) [.placeholder] := by
  cases dialect with
  | sqlOperator =>
    refine readAs_of_next? rfl (fun rest _ ↦ rfl) fun rest hrest ↦ ?_
    have hdigits : ∀ c ∈ Json.digits place,
        (Text.isAlphabetic c || c.isDigit || c == '_') = true := by
      intro c hmem
      rw [Json.isDigit_of_mem_digits hmem, Bool.or_true, Bool.true_or]
    have hnext : next? .postgres ('$' :: (Json.digits place ++ rest)) =
        some (.placeholder, (Json.digits place ++ rest).dropWhile fun c ↦
          Text.isAlphabetic c || c.isDigit || c == '_') := rfl
    have hspan := Text.span_append hdigits fun c hc ↦
      not_placeholderChar_of_mem_separators (hrest c hc)
    exact hnext.trans (congrArg (fun others ↦ some (Token.placeholder, others)) hspan.2)
  | sqlFunction | document | generic =>
    refine readAs_of_next? rfl (fun rest _ ↦ rfl) fun rest hrest ↦ ?_
    have hdigit : ∀ c ∈ rest.head?, c.isDigit = false := by
      intro c hc
      have hnone := not_placeholderChar_of_mem_separators (hrest c hc)
      simp only [Bool.or_eq_false_iff] at hnone
      exact hnone.1.2
    have hspan := Text.span_append (List.forall_mem_nil _) hdigit
    exact congrArg (fun others ↦ some (Token.placeholder, others)) hspan.2

end Token

end KeyPathQuery.Sql
