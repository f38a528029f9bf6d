import KeyPathQuery.Sql.Compile
import Mathlib.Data.List.Chain
import Mathlib.Tactic.SplitIfs

/-!
SQL text as a reader of string literals sees it: characters outside of literals, and literals.
A quote opens a literal; inside one, two quotes in a row stand for a quote, and a single quote
closes it. A text whose last literal is not closed has no reading.

`Lexeme.read` is the reader and `Lexeme.textOf` the text of lexemes. `read_textOf` says that
lexemes are read back from their text, if no quote stands outside of a literal and no literal
directly follows another. On lexemes the module defines what is asked of safe SQL: balanced
parentheses (`Lexeme.depthAfter`), the placeholders outside of literals (`Lexeme.placeholders`),
and no character behind which another one must not stand (`Guarded`).
-/

set_option autoImplicit false
set_option relaxedAutoImplicit false

namespace KeyPathQuery.Sql

/-- A character outside of literals, or a string literal by its content. -/
inductive Lexeme where
  | outside (c : Char)
  | literal (content : Text)
deriving DecidableEq, Repr

namespace Lexeme

/-! ### Reading -/

/-- The lexemes of a text, read outside of literals or inside one with a content so far. -/
def readFrom : Option Text → Text → Option (List Lexeme)
  | none, [] => some []
  | some _, [] => none
  | none, c :: rest =>
    if c = '\'' then readFrom (some []) rest else (readFrom none rest).map (.outside c :: ·)
  | some content, '\'' :: '\'' :: rest => readFrom (some (content ++ ['\''])) rest
  | some content, '\'' :: rest => (readFrom none rest).map (.literal content :: ·)
  | some content, c :: rest => readFrom (some (content ++ [c])) rest

/-- The lexemes of a text, unless a literal is not closed. -/
def read (text : Text) : Option (List Lexeme) :=
  readFrom none text

/-- The text of a lexeme. -/
def text : Lexeme → Text
  | .outside c => [c]
  | .literal content => quote content

/-- The text of lexemes. -/
def textOf (lexemes : List Lexeme) : Text :=
  lexemes.flatMap text

/-- The characters of a text as lexemes outside of literals. -/
def ofCode (chars : Text) : List Lexeme :=
  chars.map .outside

@[simp] theorem textOf_append (first second : List Lexeme) :
    textOf (first ++ second) = textOf first ++ textOf second :=
  List.flatMap_append

theorem ofCode_append (first second : Text) :
    ofCode (first ++ second) = ofCode first ++ ofCode second :=
  List.map_append

@[simp] theorem textOf_ofCode (chars : Text) : textOf (ofCode chars) = chars := by
  simp [textOf, ofCode, List.flatMap_map, text]

/-- Whether a lexeme is a literal. -/
def isLiteral : Lexeme → Bool
  | .outside _ => false
  | .literal _ => true

/-- That two lexemes are not both literals. -/
def Apart (first second : Lexeme) : Prop :=
  ¬ (first.isLiteral ∧ second.isLiteral)

/-- Lexemes that a reader of their text finds again: quotes stand in literals only, and no
literal directly follows another one. -/
structure Readable (lexemes : List Lexeme) : Prop where
  noQuote : .outside '\'' ∉ lexemes
  apart : lexemes.IsChain Apart

/-- Outside of literals a character is read as it is, unless it opens a literal. -/
theorem readFrom_outside (c : Char) (rest : Text) :
    readFrom none (c :: rest) =
      if c = '\'' then readFrom (some []) rest else (readFrom none rest).map (.outside c :: ·) :=
  rfl

/-- Inside a literal two quotes are one that belongs to it. -/
theorem readFrom_pair (content rest : Text) :
    readFrom (some content) ('\'' :: '\'' :: rest) = readFrom (some (content ++ ['\''])) rest :=
  rfl

theorem readFrom_close (content rest : Text) (hrest : rest.head? ≠ some '\'') :
    readFrom (some content) ('\'' :: rest) = (readFrom none rest).map (.literal content :: ·) := by
  rw [readFrom]
  rintro others rfl
  exact hrest rfl

theorem readFrom_keep (content rest : Text) {c : Char} (hc : c ≠ '\'') :
    readFrom (some content) (c :: rest) = readFrom (some (content ++ [c])) rest := by
  rw [readFrom]
  · intro _ hquote
    exact absurd hquote hc
  · exact hc

theorem readFrom_doubleQuotes (before content rest : Text) (hrest : rest.head? ≠ some '\'') :
    readFrom (some before) (doubleQuotes content ++ '\'' :: rest) =
      (readFrom none rest).map (.literal (before ++ content) :: ·) := by
  induction content generalizing before with
  | nil =>
    rw [List.append_nil]
    exact readFrom_close before rest hrest
  | cons c others ih =>
    by_cases hc : c = '\''
    · subst hc
      change readFrom (some before) ('\'' :: '\'' :: (doubleQuotes others ++ '\'' :: rest)) = _
      rw [readFrom_pair, ih, List.append_assoc]
      rfl
    · have hhead : doubleQuotes (c :: others) = c :: doubleQuotes others := by
        simp [doubleQuotes, hc]
      rw [hhead, List.cons_append, readFrom_keep _ _ hc, ih, List.append_assoc]
      rfl

theorem head?_textOf_ne_quote {lexemes : List Lexeme} (hquote : .outside '\'' ∉ lexemes)
    (hliteral : ∀ lexeme ∈ lexemes.head?, lexeme.isLiteral = false) :
    (textOf lexemes).head? ≠ some '\'' := by
  cases lexemes with
  | nil => simp [textOf]
  | cons lexeme rest =>
    cases lexeme with
    | outside c =>
      intro h
      have hc : c = '\'' := Option.some.inj h
      exact hquote (hc ▸ List.mem_cons_self)
    | literal content => exact absurd (hliteral _ rfl) (by simp [isLiteral])

/-- Readable lexemes are read back from their text. -/
theorem read_textOf {lexemes : List Lexeme} (hlexemes : Readable lexemes) :
    read (textOf lexemes) = some lexemes := by
  induction lexemes with
  | nil => rfl
  | cons lexeme rest ih =>
    have hquote := List.not_mem_of_not_mem_cons hlexemes.noQuote
    have hrest : readFrom none (textOf rest) = some rest :=
      ih ⟨hquote, hlexemes.apart.tail⟩
    cases lexeme with
    | outside c =>
      have hc : c ≠ '\'' := by
        rintro rfl
        exact hlexemes.noQuote List.mem_cons_self
      change readFrom none (c :: textOf rest) = _
      rw [readFrom_outside, if_neg hc, hrest]
      rfl
    | literal content =>
      have hhead : ∀ next ∈ rest.head?, next.isLiteral = false := by
        intro next hnext
        have hpair := (List.isChain_cons.mp hlexemes.apart).1 next hnext
        simpa [Apart, isLiteral] using hpair
      change readFrom none ('\'' :: (doubleQuotes content ++ ['\''] ++ textOf rest)) = _
      rw [readFrom_outside, if_pos rfl, List.append_assoc]
      change readFrom (some []) (doubleQuotes content ++ '\'' :: textOf rest) = _
      rw [readFrom_doubleQuotes [] content _ (head?_textOf_ne_quote hquote hhead), hrest]
      rfl

/-! ### Parentheses -/

/-- The number of open parentheses after a lexeme, unless it closes one that is not open. -/
def depthStep (depth : Nat) (lexeme : Lexeme) : Option Nat :=
  if lexeme = .outside '(' then some (depth + 1)
  else if lexeme = .outside ')' then if depth = 0 then none else some (depth - 1)
  else some depth

/-- The number of open parentheses after lexemes, unless one is closed that is not open. -/
def depthAfter (depth : Nat) (lexemes : List Lexeme) : Option Nat :=
  lexemes.foldlM depthStep depth

/-- Lexemes that close the parentheses they open, and no other. -/
def Balanced (lexemes : List Lexeme) : Prop :=
  ∀ depth, depthAfter depth lexemes = some depth

theorem depthStep_of_ne {lexeme : Lexeme} (hopen : lexeme ≠ .outside '(')
    (hclose : lexeme ≠ .outside ')') (depth : Nat) : depthStep depth lexeme = some depth := by
  rw [depthStep, if_neg hopen, if_neg hclose]

theorem depthAfter_append (depth : Nat) (first second : List Lexeme) :
    depthAfter depth (first ++ second) =
      (depthAfter depth first).bind (depthAfter · second) :=
  List.foldlM_append

theorem Balanced.nil : Balanced [] := fun _ ↦ rfl

theorem Balanced.append {first second : List Lexeme} (hfirst : Balanced first)
    (hsecond : Balanced second) : Balanced (first ++ second) := by
  intro depth
  rw [depthAfter_append, hfirst depth]
  exact hsecond depth

theorem Balanced.of_notMem {lexemes : List Lexeme} (hopen : .outside '(' ∉ lexemes)
    (hclose : .outside ')' ∉ lexemes) : Balanced lexemes := by
  intro depth
  induction lexemes with
  | nil => rfl
  | cons lexeme rest ih =>
    have hstep := depthStep_of_ne (List.ne_of_not_mem_cons hopen).symm
      (List.ne_of_not_mem_cons hclose).symm depth
    rw [depthAfter, List.foldlM_cons, hstep]
    exact ih (List.not_mem_of_not_mem_cons hopen) (List.not_mem_of_not_mem_cons hclose)

/-- Balanced lexemes between parentheses are balanced. -/
theorem Balanced.parenthesized {lexemes : List Lexeme} (hlexemes : Balanced lexemes) :
    Balanced (.outside '(' :: (lexemes ++ [.outside ')'])) := by
  intro depth
  change depthAfter (depth + 1) (lexemes ++ [.outside ')']) = some depth
  rw [depthAfter_append, hlexemes (depth + 1)]
  rfl

/-! ### Placeholders -/

/-- A placeholder in a text: a question mark, or a dollar sign and the digits behind it. -/
inductive Placeholder where
  | question
  | numbered (digits : Text)
deriving DecidableEq, Repr

/-- The digits that lexemes start with. -/
def leadingDigits : List Lexeme → Text
  | .outside c :: rest => if c.isDigit then c :: leadingDigits rest else []
  | _ => []

/-- The placeholders outside of literals in order. -/
def placeholders : List Lexeme → List Placeholder
  | [] => []
  | lexeme :: rest =>
    if lexeme = .outside '?' then .question :: placeholders rest
    else if lexeme = .outside '$' then .numbered (leadingDigits rest) :: placeholders rest
    else placeholders rest

theorem placeholders_append_of_notMem {first : List Lexeme} (hquestion : .outside '?' ∉ first)
    (hdollar : .outside '$' ∉ first) (second : List Lexeme) :
    placeholders (first ++ second) = placeholders second := by
  induction first with
  | nil => rfl
  | cons lexeme rest ih =>
    rw [List.cons_append, placeholders, if_neg (List.ne_of_not_mem_cons hquestion).symm,
      if_neg (List.ne_of_not_mem_cons hdollar).symm]
    exact ih (List.not_mem_of_not_mem_cons hquestion) (List.not_mem_of_not_mem_cons hdollar)

/-- Digits are found as a whole, unless another digit follows. -/
theorem leadingDigits_ofCode {digits : Text} (hdigits : ∀ c ∈ digits, c.isDigit = true)
    {rest : List Lexeme} (hrest : leadingDigits rest = []) :
    leadingDigits (ofCode digits ++ rest) = digits := by
  induction digits with
  | nil => exact hrest
  | cons c others ih =>
    have hc := hdigits c List.mem_cons_self
    change leadingDigits (.outside c :: (ofCode others ++ rest)) = _
    rw [leadingDigits, if_pos hc, ih fun d hd ↦ hdigits d (List.mem_cons_of_mem _ hd)]

/-! ### Harmless text -/

/-- Lexemes of SQL that says nothing but what it shows: outside of literals there is no quotation
mark, no backslash and no end of a statement, no comment starts, and every parenthesis has its
partner. -/
structure Harmless (lexemes : List Lexeme) : Prop where
  marks : ∀ c ∈ ['\'', '"', '\\', ';', '#'], .outside c ∉ lexemes
  dashes : ¬ [.outside '-', .outside '-'] <:+: lexemes
  slashStar : ¬ [.outside '/', .outside '*'] <:+: lexemes
  parentheses : depthAfter 0 lexemes = some 0

end Lexeme

/-! ### Guarded elements -/

section Guarded

variable {α β : Type} {first second : α} {left right : List α}

/-- Every occurrence of the first element in a list is followed by another element than the
second. -/
structure Guarded (first second : α) (list : List α) : Prop where
  apart : list.IsChain fun x y ↦ x = first → y ≠ second
  last : list.getLast? ≠ some first

theorem Guarded.nil : Guarded first second [] :=
  ⟨.nil, by simp⟩

theorem Guarded.of_notMem (hfirst : first ∉ left) : Guarded first second left := by
  refine ⟨?_, fun h ↦ hfirst (List.mem_of_getLast? h)⟩
  induction left with
  | nil => exact .nil
  | cons x rest ih =>
    refine List.isChain_cons.mpr ⟨?_, ih fun h ↦ hfirst (List.mem_cons_of_mem _ h)⟩
    rintro y - rfl
    exact absurd List.mem_cons_self hfirst

theorem Guarded.tail {x : α} (hleft : Guarded first second (x :: left)) :
    Guarded first second left := by
  refine ⟨hleft.apart.tail, ?_⟩
  cases left with
  | nil => simp
  | cons y rest =>
    intro h
    exact hleft.last (List.getLast?_cons_cons.trans h)

/-- Guarded lists one after another are guarded: nothing is left open at the end of the first. -/
theorem Guarded.append (hleft : Guarded first second left) (hright : Guarded first second right) :
    Guarded first second (left ++ right) := by
  constructor
  · refine List.isChain_append.mpr ⟨hleft.apart, hright.apart, ?_⟩
    rintro x hx y - rfl
    exact absurd hx hleft.last
  · rw [List.getLast?_append]
    cases hlast : right.getLast? with
    | none => exact hleft.last
    | some x =>
      intro h
      exact hright.last (hlast.trans h)

theorem Guarded.cons {x : α} (hx : x ≠ first) (hleft : Guarded first second left) :
    Guarded first second (x :: left) := by
  have hsingle : Guarded first second [x] := Guarded.of_notMem (by simpa using Ne.symm hx)
  exact hsingle.append hleft

/-- An occurrence of the first element with something else behind it. -/
theorem Guarded.cons_cons {y : α} (hy : y ≠ second)
    (hleft : Guarded first second (y :: left)) : Guarded first second (first :: y :: left) := by
  refine ⟨List.isChain_cons.mpr ⟨?_, hleft.apart⟩, ?_⟩
  · rintro z hz -
    obtain rfl := Option.some.inj hz
    exact hy
  · rw [List.getLast?_cons_cons]
    exact hleft.last

/-- A list that may end with the first element, before one that goes on with something else than
the second. -/
theorem Guarded.append_of_head {y : α} (hleft : left.IsChain fun x y ↦ x = first → y ≠ second)
    (hhead : y ∈ right.head?) (hy : y ≠ second) (hright : Guarded first second right) :
    Guarded first second (left ++ right) := by
  constructor
  · refine List.isChain_append.mpr ⟨hleft, hright.apart, ?_⟩
    rintro x - z hz -
    obtain rfl := Option.some.inj (hz.symm.trans hhead)
    exact hy
  · have hne : right ≠ [] := by
      rintro rfl
      cases hhead
    rw [List.getLast?_append_of_ne_nil _ hne]
    exact hright.last

theorem isChain_map_of_injective {f : α → β} (hf : Function.Injective f)
    (hleft : left.IsChain fun x y ↦ x = first → y ≠ second) :
    (left.map f).IsChain fun x y ↦ x = f first → y ≠ f second := by
  refine (List.isChain_map f).mpr (hleft.imp ?_)
  intro x y hxy hx hy
  exact hxy (hf hx) (hf hy)

theorem Guarded.map {f : α → β} (hf : Function.Injective f) (hleft : Guarded first second left) :
    Guarded (f first) (f second) (left.map f) := by
  refine ⟨isChain_map_of_injective hf hleft.apart, ?_⟩
  rw [List.getLast?_map]
  intro h
  obtain ⟨x, hx, hfx⟩ := Option.map_eq_some_iff.mp h
  exact hleft.last (hx.trans (congrArg some (hf hfx)))

/-- In a guarded list the two elements never stand side by side. -/
theorem Guarded.not_neighbours (hleft : Guarded first second left) :
    ¬ [first, second] <:+: left := by
  intro hblock
  have hpair := List.IsChain.infix hleft.apart hblock
  exact (List.isChain_cons.mp hpair).1 second rfl rfl rfl

end Guarded

end KeyPathQuery.Sql
