import KeyPathQuery.Proofs.Sql.Lexeme
import KeyPathQuery.Proofs.Sql.TokenText

/-!
SQL text as MySQL sees it, where a backslash in a string literal takes the next character for
something else. Most pairs stand for one character; before the two wildcards of patterns the
backslash stays, for the pattern to read it.

A writer that doubles quotes and leaves backslashes alone is read back if and only if every
backslash in its literals is one of those that stay (`KeepsBackslashes`). That it is read back then
is a matter of the characters one after another. The converse counts: no reading finds more
backslashes than the text holds, and every pair that stands for one character costs one.

Main statement: `readEscaping_textOf_iff`.
-/

set_option autoImplicit false
set_option relaxedAutoImplicit false

namespace KeyPathQuery.Sql

open Token (KeepsBackslashes)

namespace Lexeme

/-! ### Reading -/

/-- The character that a backslash and a character stand for, if they stand for one. -/
def escapedChar (c : Char) : Char :=
  match c with
  | '0' => '\x00'
  | 'b' => '\x08'
  | 'n' => '\n'
  | 'r' => '\r'
  | 't' => '\t'
  | 'Z' => '\x1a'
  | _ => c

/-- What a backslash and a character stand for in a string literal of MySQL. -/
def unescaped (c : Char) : Text :=
  if c = '%' ∨ c = '_' then ['\\', c] else [escapedChar c]

/-- The lexemes of a text for MySQL, read outside of literals or inside one with a content so
far. -/
def readEscapingFrom : Option Text → Text → Option (List Lexeme)
  | none, [] => some []
  | some _, [] => none
  | none, c :: rest =>
    if c = '\'' then readEscapingFrom (some []) rest
    else (readEscapingFrom none rest).map (.outside c :: ·)
  | some content, '\\' :: c :: rest => readEscapingFrom (some (content ++ unescaped c)) rest
  | some content, '\'' :: '\'' :: rest => readEscapingFrom (some (content ++ ['\''])) rest
  | some content, '\'' :: rest => (readEscapingFrom none rest).map (.literal content :: ·)
  | some content, c :: rest =>
    if c = '\\' then none else readEscapingFrom (some (content ++ [c])) rest

/-- The lexemes of a text for MySQL, unless a literal is not closed. -/
def readEscaping (text : Text) : Option (List Lexeme) :=
  readEscapingFrom none text

/-- Outside of literals a character is read as it is, unless it opens a literal. -/
theorem readEscapingFrom_outside (c : Char) (rest : Text) :
    readEscapingFrom none (c :: rest) =
      if c = '\'' then readEscapingFrom (some []) rest
      else (readEscapingFrom none rest).map (.outside c :: ·) :=
  rfl

/-- Inside a literal a backslash takes the character behind it along. -/
theorem readEscapingFrom_escape (content : Text) (c : Char) (rest : Text) :
    readEscapingFrom (some content) ('\\' :: c :: rest) =
      readEscapingFrom (some (content ++ unescaped c)) rest :=
  rfl

/-- Inside a literal two quotes are one that belongs to it. -/
theorem readEscapingFrom_pair (content rest : Text) :
    readEscapingFrom (some content) ('\'' :: '\'' :: rest) =
      readEscapingFrom (some (content ++ ['\''])) rest :=
  rfl

theorem readEscapingFrom_close (content rest : Text) (hrest : rest.head? ≠ some '\'') :
    readEscapingFrom (some content) ('\'' :: rest) =
      (readEscapingFrom none rest).map (.literal content :: ·) := by
  rw [readEscapingFrom]
  rintro others rfl
  exact hrest rfl

theorem readEscapingFrom_keep (content rest : Text) {c : Char} (hquote : c ≠ '\'')
    (hbackslash : c ≠ '\\') :
    readEscapingFrom (some content) (c :: rest) =
      readEscapingFrom (some (content ++ [c])) rest := by
  rw [readEscapingFrom, if_neg hbackslash]
  · exact fun _ _ heq ↦ absurd heq hbackslash
  · exact fun _ heq ↦ absurd heq hquote
  · exact hquote

/-! ### Counting backslashes -/

/-- The number of backslashes in a text. -/
def backslashes (text : Text) : Nat :=
  text.count '\\'

@[simp] theorem backslashes_nil : backslashes [] = 0 := rfl

@[simp] theorem backslashes_append (first second : Text) :
    backslashes (first ++ second) = backslashes first + backslashes second :=
  List.count_append

theorem backslashes_cons (c : Char) (rest : Text) :
    backslashes (c :: rest) = backslashes [c] + backslashes rest :=
  backslashes_append [c] rest

theorem backslashes_cons_of_ne {c : Char} (hc : c ≠ '\\') (rest : Text) :
    backslashes (c :: rest) = backslashes rest :=
  List.count_cons_of_ne hc

@[simp] theorem backslashes_cons_quote (rest : Text) :
    backslashes ('\'' :: rest) = backslashes rest :=
  backslashes_cons_of_ne (by decide) rest

theorem backslashes_pair (c : Char) (rest : Text) :
    backslashes ('\\' :: c :: rest) = 1 + backslashes [c] + backslashes rest := by
  rw [backslashes_cons, backslashes_cons c, ← Nat.add_assoc]
  rfl

@[simp] theorem backslashes_quote (content : Text) :
    backslashes (quote content) = backslashes content := by
  have hquotes : backslashes (doubleQuotes content) = backslashes content := by
    simp [backslashes, count_doubleQuotes]
  simp [quote, hquotes]

/-- What a pair stands for has no more backslashes than its second character. -/
theorem backslashes_escapedChar (c : Char) : backslashes [escapedChar c] ≤ backslashes [c] := by
  unfold escapedChar
  split
  all_goals exact Nat.le_refl _

theorem keepsBackslashes_append {first second : Text} (hfirst : KeepsBackslashes first)
    (hsecond : KeepsBackslashes second) : KeepsBackslashes (first ++ second) := by
  induction hfirst with
  | nil => exact hsecond
  | other hc _ ih => exact .other hc ih
  | wildcard hc _ ih => exact .wildcard hc ih

/-- What the backslashes say about a reading. `before` is the content so far of the literal that is
open, `chars` is the text behind it and `lexemes` is what is read of both: there are no more
backslashes in it than in them, and if there are as many, then the literals keep theirs. -/
structure Accounts (before chars : Text) (lexemes : List Lexeme) : Prop where
  le : backslashes (textOf lexemes) ≤ backslashes before + backslashes chars
  keeps : backslashes (textOf lexemes) = backslashes before + backslashes chars →
    KeepsBackslashes before → ∀ content, .literal content ∈ lexemes → KeepsBackslashes content

section

variable {before chars rest content : Text} {lexemes : List Lexeme} {c : Char}

theorem Accounts.nil : Accounts [] [] [] where
  le := Nat.le_refl _
  keeps := by simp

/-- A quote that opens a literal, or the first one of a pair. -/
theorem Accounts.skip_quote (hrest : Accounts before rest lexemes) :
    Accounts before ('\'' :: rest) lexemes where
  le := by simpa using hrest.le
  keeps := by simpa using hrest.keeps

theorem Accounts.outside (hrest : Accounts [] rest lexemes) :
    Accounts [] (c :: rest) (.outside c :: lexemes) := by
  have htext : backslashes (textOf (.outside c :: lexemes)) =
      backslashes [c] + backslashes (textOf lexemes) := backslashes_cons c (textOf lexemes)
  have hchars := backslashes_cons c rest
  have hle := hrest.le
  refine ⟨by omega, fun heq hbefore content hmem ↦ ?_⟩
  exact hrest.keeps (by omega) hbefore content (List.mem_of_ne_of_mem (by simp) hmem)

theorem Accounts.literal (hrest : Accounts [] rest lexemes) :
    Accounts content ('\'' :: rest) (.literal content :: lexemes) := by
  have htext : backslashes (textOf (.literal content :: lexemes)) =
      backslashes content + backslashes (textOf lexemes) := by
    change backslashes (quote content ++ textOf lexemes) = _
    rw [backslashes_append, backslashes_quote]
  have hchars := backslashes_cons_quote rest
  have hle := hrest.le
  rw [backslashes_nil, Nat.zero_add] at hle
  refine ⟨by omega, fun heq hbefore other hmem ↦ ?_⟩
  rcases List.mem_cons.mp hmem with hsame | hother
  · obtain rfl := Lexeme.literal.inj hsame
    exact hbefore
  · exact hrest.keeps (by rw [backslashes_nil]; omega) .nil other hother

/-- Other characters than backslashes stand for themselves. -/
theorem Accounts.keep (hc : c ≠ '\\') (hrest : Accounts (content ++ [c]) rest lexemes) :
    Accounts content (c :: rest) lexemes := by
  obtain ⟨hle, hkeeps⟩ := hrest
  simp only [backslashes_append, backslashes_cons_of_ne hc, backslashes_nil, Nat.add_zero]
    at hle hkeeps
  rw [← backslashes_cons_of_ne hc rest] at hle hkeeps
  exact ⟨hle, fun heq hcontent ↦ hkeeps heq (keepsBackslashes_append hcontent (.other hc .nil))⟩

/-- A pair with a wildcard stays as it is. -/
theorem Accounts.wildcard (hc : c = '%' ∨ c = '_')
    (hrest : Accounts (content ++ ['\\', c]) rest lexemes) :
    Accounts content ('\\' :: c :: rest) lexemes := by
  have hpair := backslashes_pair c []
  have hchars := backslashes_pair c rest
  have hcontent := backslashes_append content ['\\', c]
  have hle := hrest.le
  rw [backslashes_nil] at hpair
  exact ⟨by omega, fun heq hkeeps ↦
    hrest.keeps (by omega) (keepsBackslashes_append hkeeps (.wildcard hc .nil))⟩

/-- Every other pair costs a backslash, so there are fewer of them than in the text. -/
theorem Accounts.escape (hrest : Accounts (content ++ [escapedChar c]) rest lexemes) :
    Accounts content ('\\' :: c :: rest) lexemes := by
  have hcount := backslashes_escapedChar c
  have hchars := backslashes_pair c rest
  have hcontent := backslashes_append content [escapedChar c]
  have hle := hrest.le
  exact ⟨by omega, fun heq ↦ by omega⟩

end

/-- The backslashes account for every reading. -/
theorem accounts_of_readEscapingFrom {state : Option Text} {chars : Text} {lexemes : List Lexeme}
    (hread : readEscapingFrom state chars = some lexemes) :
    Accounts (state.getD []) chars lexemes := by
  induction state, chars using readEscapingFrom.induct generalizing lexemes with
  | case1 =>
    obtain rfl := Option.some.inj hread
    exact .nil
  | case2 content => cases hread
  | case3 rest ih =>
    rw [readEscapingFrom_outside, if_pos rfl] at hread
    exact (ih hread).skip_quote
  | case4 c rest hc ih =>
    rw [readEscapingFrom_outside, if_neg hc] at hread
    obtain ⟨others, hothers, rfl⟩ := Option.map_eq_some_iff.mp hread
    exact (ih hothers).outside
  | case5 content c rest ih =>
    rw [readEscapingFrom_escape] at hread
    have hrest : Accounts (content ++ unescaped c) rest lexemes := ih hread
    unfold unescaped at hrest
    split at hrest
    next hc => exact hrest.wildcard hc
    next => exact hrest.escape
  | case6 content rest ih =>
    rw [readEscapingFrom_pair] at hread
    exact (Accounts.keep (by decide) (ih hread)).skip_quote
  | case7 content rest hrest ih =>
    have hhead : rest.head? ≠ some '\'' := fun h ↦
      (List.head?_eq_some_iff.mp h).elim fun others hothers ↦ hrest others hothers
    rw [readEscapingFrom_close content rest hhead] at hread
    obtain ⟨others, hothers, rfl⟩ := Option.map_eq_some_iff.mp hread
    exact (ih hothers).literal
  | case8 content rest hpair =>
    cases rest with
    | nil => cases hread
    | cons c others => exact (hpair c others rfl rfl).elim
  | case9 content c rest hpair hdouble hquote hc ih =>
    rw [readEscapingFrom_keep content rest hquote hc] at hread
    exact (ih hread).keep hc

/-! ### Reading back -/

/-- A content whose backslashes stay is read back from its doubled quotes. -/
theorem readEscapingFrom_doubleQuotes (before : Text) {content : Text}
    (hcontent : KeepsBackslashes content) (rest : Text) (hrest : rest.head? ≠ some '\'') :
    readEscapingFrom (some before) (doubleQuotes content ++ '\'' :: rest) =
      (readEscapingFrom none rest).map (.literal (before ++ content) :: ·) := by
  induction hcontent generalizing before with
  | nil =>
    rw [List.append_nil]
    exact readEscapingFrom_close before rest hrest
  | @other c others hc _ ih =>
    by_cases hquote : c = '\''
    · subst hquote
      change readEscapingFrom (some before)
        ('\'' :: '\'' :: (doubleQuotes others ++ '\'' :: rest)) = _
      rw [readEscapingFrom_pair, ih, List.append_assoc]
      rfl
    · rw [Token.doubleQuotes_cons_of_ne hquote, List.cons_append,
        readEscapingFrom_keep _ _ hquote hc, ih, List.append_assoc]
      rfl
  | @wildcard c others hc _ ih =>
    have hquote : c ≠ '\'' := by rcases hc with rfl | rfl <;> decide
    have hkept : unescaped c = ['\\', c] := if_pos hc
    rw [Token.doubleQuotes_cons_of_ne (by decide), Token.doubleQuotes_cons_of_ne hquote,
      List.cons_append, List.cons_append, readEscapingFrom_escape, ih, hkept, List.append_assoc]
    rfl

/-- Readable lexemes are read back by MySQL if and only if the backslashes in their literals
stay. -/
theorem readEscaping_textOf_iff {lexemes : List Lexeme} (hlexemes : Readable lexemes) :
    readEscaping (textOf lexemes) = some lexemes ↔
      ∀ content, .literal content ∈ lexemes → KeepsBackslashes content := by
  constructor
  · intro hread
    exact (accounts_of_readEscapingFrom hread).keeps (by simp) .nil
  · intro hkeeps
    induction lexemes with
    | nil => rfl
    | cons lexeme rest ih =>
      have hquote := List.not_mem_of_not_mem_cons hlexemes.noQuote
      have hrest : readEscapingFrom none (textOf rest) = some rest :=
        ih ⟨hquote, hlexemes.apart.tail⟩ fun content hmem ↦
          hkeeps content (List.mem_cons_of_mem _ hmem)
      cases lexeme with
      | outside c =>
        have hc : c ≠ '\'' := by
          rintro rfl
          exact hlexemes.noQuote List.mem_cons_self
        change readEscapingFrom none (c :: textOf rest) = _
        rw [readEscapingFrom_outside, if_neg hc, hrest]
        rfl
      | literal content =>
        have hhead : ∀ next ∈ rest.head?, next.isLiteral = false := by
          intro next hnext
          have hpair := (List.isChain_cons.mp hlexemes.apart).1 next hnext
          simpa [Apart, isLiteral] using hpair
        have hcontent := hkeeps content List.mem_cons_self
        change readEscapingFrom none ('\'' :: (doubleQuotes content ++ ['\''] ++ textOf rest)) = _
        rw [readEscapingFrom_outside, if_pos rfl, List.append_assoc]
        change readEscapingFrom (some []) (doubleQuotes content ++ '\'' :: textOf rest) = _
        rw [readEscapingFrom_doubleQuotes [] hcontent _ (head?_textOf_ne_quote hquote hhead), hrest]
        rfl

end Lexeme

end KeyPathQuery.Sql
