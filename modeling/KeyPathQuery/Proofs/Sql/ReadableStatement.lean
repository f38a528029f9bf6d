import KeyPathQuery.Proofs.Sql.PlainExpression
import KeyPathQuery.Proofs.Sql.StatementGrammar

/-!
Readable statements, and how they are written in the grammar of statements. A readable expression
has names that are identifiers, calls functions on JSON values only, and goes down into literals in
which a backslash changes nothing. Nothing is asked of its values but that their text in a style is
a value of the dialect.

A template is written as symbols of a kind (`Template.WritesIn`) if its text spells such symbols
wherever its numbers start, as long as a separator is behind it. Templates that start with a
separator may stand behind others, so the induction on an expression follows the writing of it.

Main statement: `Select.IsReadable.accepts`, that every parser which reads statements accepts the
text of a readable one, if it keeps none of its names for itself.
-/

set_option autoImplicit false
set_option relaxedAutoImplicit false

namespace KeyPathQuery.Sql

open Token (GoesOnWith anything)

/-! ### Names -/

mutual

/-- The names of columns in an expression, and of their tables. -/
def Expression.names : Expression → List Text
  | .column table name => table.toList ++ [name]
  | .literal _ => []
  | .bind _ => []
  | .binary left _ right => left.names ++ right.names
  | .call _ arguments => namesList arguments
  | .like target pattern _ => target.names ++ pattern.names
  | .inList target items => target.names ++ namesList items
  | .isNotNull operand => operand.names
  | .jsonAccess target path _ => target.names ++ path.names
  | .nested inner => inner.names

/-- The names of columns in some expressions, and of their tables. -/
def Expression.namesList : List Expression → List Text
  | [] => []
  | expression :: rest => expression.names ++ namesList rest

end

theorem Expression.namesList_eq_flatMap (expressions : List Expression) :
    namesList expressions = expressions.flatMap names := by
  induction expressions with
  | nil => rfl
  | cons expression rest ih => rw [namesList, ih, List.flatMap_cons]

/-- The names in an item of a projection, with the name that its values get. -/
def SelectItem.names : SelectItem → List Text
  | .wildcard => []
  | .expression content resultName => content.names ++ resultName.toList

/-- The names in an item of an ordering. -/
def OrderItem.names (item : OrderItem) : List Text :=
  item.expression.names

/-- The name of a table, and that of its schema. -/
def Table.names (table : Table) : List Text :=
  table.schema.toList ++ [table.name]

/-- The names of tables and columns in a statement, and those that its columns get. -/
def Select.names (select : Select) : List Text :=
  select.projections.flatMap SelectItem.names ++ select.tables.flatMap Table.names ++
    select.condition.toList.flatMap Expression.names ++ select.ordering.flatMap OrderItem.names

/-! ### Readable statements -/

/-- An expression that all stores read, with brackets nested no deeper than a depth: its names are
identifiers, its functions those on JSON values, and its operators those of SQL; steps are into
literals in which a backslash changes nothing, and lists are not empty. -/
inductive Expression.IsReadable : Nat → Expression → Prop
  | column {depth : Nat} {table : Option Text} {name : Text}
    (htable : ∀ qualifier ∈ table, isIdentifier qualifier = true)
    (hname : isIdentifier name = true) : IsReadable depth (.column table name)
  | string {depth : Nat} {content : Text} (hcontent : Token.KeepsBackslashes content) :
    IsReadable depth (.string content)
  | bind {depth : Nat} (value : Json) : IsReadable depth (.bind value)
  | binary {depth : Nat} {left right : Expression} {operator : BinaryOperator}
    (hoperator : operator.isNamed = true) (hleft : IsReadable depth left)
    (hright : IsReadable depth right) : IsReadable depth (.binary left operator right)
  | never {depth : Nat} : IsReadable depth .alwaysFalse
  | call {depth : Nat} {function : Text} {arguments : List Expression}
    (hfunction : function ∈ jsonFunctions) (hne : arguments ≠ [])
    (harguments : ∀ argument ∈ arguments, IsReadable depth argument) :
    IsReadable (depth + 1) (.call function arguments)
  | like {depth : Nat} {target : Expression} (value : Json) {escape : Char}
    (hescape : escape ≠ '\\') (htarget : IsReadable depth target) :
    IsReadable depth (.like target (.bind value) escape)
  | inList {depth : Nat} {target : Expression} {items : List Expression}
    (htarget : IsReadable (depth + 1) target) (hne : items ≠ [])
    (hitems : ∀ item ∈ items, IsReadable depth item) :
    IsReadable (depth + 1) (.inList target items)
  | isNotNull {depth : Nat} {operand : Expression} (hoperand : IsReadable depth operand) :
    IsReadable depth (.isNotNull operand)
  | jsonAccess {depth : Nat} {target : Expression} {content : Text} (asText : Bool)
    (htarget : IsReadable depth target) (hcontent : Token.KeepsBackslashes content) :
    IsReadable depth (.jsonAccess target (.string content) asText)
  | nested {depth : Nat} {inner : Expression} (hinner : IsReadable depth inner) :
    IsReadable (depth + 1) (.nested inner)

theorem isIdentifier_of_mem_jsonFunctions {function : Text} (hfunction : function ∈ jsonFunctions) :
    isIdentifier function = true := by
  have hfunctions : ∀ function ∈ jsonFunctions, isIdentifier function = true := by decide
  exact hfunctions function hfunction

/-- Every readable expression is plain. -/
theorem Expression.IsReadable.isPlain {depth : Nat} {expression : Expression}
    (hreadable : expression.IsReadable depth) : expression.IsPlain := by
  induction hreadable with
  | column htable hname => exact .column htable hname
  | string hcontent => exact .literal _
  | bind value => exact .bind value
  | binary hoperator _ _ hleft hright => exact .binary hoperator hleft hright
  | never => exact .binary rfl (.literal _) (.literal _)
  | call hfunction _ _ harguments =>
    exact .call (isIdentifier_of_mem_jsonFunctions hfunction) harguments
  | like value _ _ htarget => exact .like _ htarget (.bind value)
  | inList _ _ _ htarget hitems => exact .inList htarget hitems
  | isNotNull _ hoperand => exact .isNotNull hoperand
  | jsonAccess asText _ _ htarget => exact .jsonAccess asText htarget (.literal _)
  | nested _ hinner => exact .nested hinner

/-- An item of a projection that all stores read. -/
def SelectItem.IsReadable : SelectItem → Prop
  | .wildcard => True
  | .expression content resultName =>
    content.IsReadable nesting ∧ ∀ name ∈ resultName, isIdentifier name = true

/-- An item of an ordering that all stores read. -/
structure OrderItem.IsReadable (item : OrderItem) : Prop where
  expression : item.expression.IsReadable nesting
  direction : item.direction.isSome = true

/-- A statement over one table that all stores read. -/
structure Select.IsReadable (select : Select) : Prop where
  projections : ∀ item ∈ select.projections, item.IsReadable
  tables : ∃ table, select.tables = [table] ∧ table.IsPlain
  condition : ∀ condition ∈ select.condition, condition.IsReadable nesting
  ordering : ∀ item ∈ select.ordering, item.IsReadable

theorem SelectItem.IsReadable.isPlain {item : SelectItem} (hitem : item.IsReadable) :
    item.IsPlain := by
  rcases item with _ | ⟨content, resultName⟩
  · trivial
  · exact ⟨hitem.1.isPlain, fun name hname _ ↦ isIdentifierChar_of_mem (hitem.2 name hname)⟩

/-- Every readable statement is plain. -/
theorem Select.IsReadable.isPlain {select : Select} (hselect : select.IsReadable) :
    select.IsPlain where
  projections := fun item hitem ↦ (hselect.projections item hitem).isPlain
  tables := by
    obtain ⟨table, htables, htable⟩ := hselect.tables
    rw [htables]
    exact List.forall_mem_singleton.mpr htable
  condition := fun condition hcondition ↦ (hselect.condition condition hcondition).isPlain
  ordering := fun item hitem ↦
    ⟨(hselect.ordering item hitem).expression.isPlain, (hselect.ordering item hitem).direction⟩

/-! ### Spelling -/

section

variable {before after : Char → Prop} {first second : Text} {symbols others : List Symbol}
  {c : Char}

/-- A part of a text spells some symbols if a character of a class is behind it. -/
def SpellsBefore (before : Char → Prop) (symbols : List Symbol) (part : Text) : Prop :=
  ∀ rest others, GoesOnWith before rest → Spells others rest →
    Spells (symbols ++ others) (part ++ rest)

theorem SpellsBefore.mono (hpart : SpellsBefore before symbols first)
    (hclass : ∀ c, after c → before c) : SpellsBefore after symbols first :=
  fun rest others hrest ↦ hpart rest others fun c hc ↦ hclass c (hrest c hc)

theorem spellsBefore_symbol (symbol : Symbol) :
    SpellsBefore symbol.EndsBefore [symbol] symbol.text :=
  fun _ _ hrest hspells ↦ .cons hrest hspells

theorem spellsBefore_space : SpellsBefore anything [] [' '] :=
  fun _ _ _ hspells ↦ .space hspells

/-- A part that a character of the right class always follows is spelled before another one. -/
theorem SpellsBefore.append_of_goesOnWith (hfirst : SpellsBefore before symbols first)
    (hsecond : SpellsBefore after others second)
    (hgoes : ∀ rest, GoesOnWith after rest → GoesOnWith before (second ++ rest)) :
    SpellsBefore after (symbols ++ others) (first ++ second) := by
  intro rest last hrest hspells
  rw [List.append_assoc, List.append_assoc]
  exact hfirst _ _ (hgoes rest hrest) (hsecond rest last hrest hspells)

theorem SpellsBefore.append (hfirst : SpellsBefore before symbols first)
    (hsecond : SpellsBefore after others (c :: second)) (hc : before c) :
    SpellsBefore after (symbols ++ others) (first ++ c :: second) :=
  hfirst.append_of_goesOnWith hsecond fun _ _ ↦ Token.goesOnWith_cons hc _

/-- What is spelled whatever follows it may stand before every part. -/
theorem SpellsBefore.append_free (hfirst : SpellsBefore anything symbols first)
    (hsecond : SpellsBefore after others second) :
    SpellsBefore after (symbols ++ others) (first ++ second) :=
  hfirst.append_of_goesOnWith hsecond fun _ _ ↦ Token.goesOnWith_anything _

/-- A part with a space before it is spelled as it is without. -/
theorem SpellsBefore.cons_space (hpart : SpellsBefore before symbols first) :
    SpellsBefore before symbols (' ' :: first) :=
  spellsBefore_space.append_free hpart

/-- A part with a space before it and a space behind it is spelled whatever follows. -/
theorem SpellsBefore.spaced (hpart : SpellsBefore before symbols first) (hspace : before ' ') :
    SpellsBefore anything symbols ([' '] ++ first ++ [' ']) := by
  have hbehind := hpart.append spellsBefore_space hspace
  rw [List.append_nil] at hbehind
  exact hbehind.cons_space

theorem spellsBefore_word (name : Text) : SpellsBefore Token.endsWord [.word name] name :=
  spellsBefore_symbol (.word name)

/-- A word with a space behind it is spelled whatever follows. -/
theorem spellsBefore_word_space (name : Text) :
    SpellsBefore anything [.word name] (name ++ [' ']) := by
  have hword := (spellsBefore_word name).append spellsBefore_space (by simp [Token.endsWord])
  rwa [List.append_nil] at hword

theorem spellsBefore_punctuation (mark : Char) :
    SpellsBefore anything [.punctuation mark] [mark] :=
  spellsBefore_symbol (.punctuation mark)

end

/-! ### Parts of a template -/

namespace Template

/-- The characters behind a part of a template. -/
def isSeparator (c : Char) : Prop :=
  c ∈ separators

theorem ne_quote_of_isSeparator {c : Char} (hc : isSeparator c) : c ≠ '\'' := by
  rcases Token.mem_separators_iff.mp hc with rfl | rfl | rfl | rfl
  all_goals decide

/-- A template is written as symbols of a kind in a style: all stores read its literals alike, and
its text spells such symbols before a separator, wherever its numbers start. -/
structure WritesIn (style : PlaceholderStyle) (template : Template) (kind : List Symbol → Prop) :
    Prop where
  literals : ∀ content, .literal content ∈ template → Token.KeepsBackslashes content
  spells : ∀ number, ∃ symbols, kind symbols ∧
    SpellsBefore isSeparator symbols (template.fill style.slotText number)

variable {style : PlaceholderStyle} {first second rest : Template} {chars : Text}
  {kind firstKind secondKind : List Symbol → Prop} {symbols : List Symbol}

theorem goesOnWith_fill (hstart : StartsApart second) (slotText : Nat → Json → Text) (number : Nat)
    (rest : Text) : GoesOnWith isSeparator (second.fill slotText number ++ rest) := by
  obtain ⟨c, chars, others, rfl, hc⟩ := hstart
  exact Token.goesOnWith_cons hc _

/-- A template may stand behind another one if it starts with a separator. -/
theorem WritesIn.append (hfirst : WritesIn style first firstKind)
    (hsecond : WritesIn style second secondKind) (hstart : StartsApart second)
    (hkind : ∀ left right, firstKind left → secondKind right → kind (left ++ right)) :
    WritesIn style (first ++ second) kind := by
  constructor
  · intro content hmem
    exact (List.mem_append.mp hmem).elim (hfirst.literals content) (hsecond.literals content)
  · intro number
    obtain ⟨left, hleft, hleftSpells⟩ := hfirst.spells number
    obtain ⟨right, hright, hrightSpells⟩ := hsecond.spells (number + first.slots.length)
    refine ⟨left ++ right, hkind left right hleft hright, ?_⟩
    rw [fill_append]
    exact hleftSpells.append_of_goesOnWith hrightSpells
      fun rest _ ↦ goesOnWith_fill hstart style.slotText _ rest

/-- Code that is spelled whatever follows it may stand before every template. -/
theorem WritesIn.cons_code (hchars : SpellsBefore anything symbols chars)
    (hrest : WritesIn style rest secondKind)
    (hkind : ∀ others, secondKind others → kind (symbols ++ others)) :
    WritesIn style (.code chars :: rest) kind := by
  constructor
  · intro content hmem
    exact hrest.literals content (List.mem_of_ne_of_mem (by simp) hmem)
  · intro number
    obtain ⟨others, hothers, hspells⟩ := hrest.spells number
    exact ⟨symbols ++ others, hkind others hothers, hchars.append_free hspells⟩

theorem WritesIn.code (hchars : SpellsBefore isSeparator symbols chars) (hkind : kind symbols) :
    WritesIn style [.code chars] kind := by
  refine ⟨by simp, fun number ↦ ⟨symbols, hkind, ?_⟩⟩
  rw [fill, fill, List.append_nil]
  exact hchars

/-- Code that always spells the same symbols. -/
theorem WritesIn.codeSymbols (hchars : SpellsBefore isSeparator symbols chars) :
    WritesIn style [.code chars] (· = symbols) :=
  .code hchars rfl

theorem WritesIn.mono (hfirst : WritesIn style first firstKind)
    (hkind : ∀ symbols, firstKind symbols → kind symbols) : WritesIn style first kind := by
  refine ⟨hfirst.literals, fun number ↦ ?_⟩
  obtain ⟨symbols, hsymbols, hspells⟩ := hfirst.spells number
  exact ⟨symbols, hkind symbols hsymbols, hspells⟩

/-- Symbols of a kind with commas between them, at least once. -/
def CommaSeparated (kind : List Symbol → Prop) (symbols : List Symbol) : Prop :=
  ∃ parts, parts ≠ [] ∧ (∀ part ∈ parts, kind part) ∧ symbols = commaSeparated parts

theorem CommaSeparated.cons {part others : List Symbol} (hpart : kind part)
    (hothers : CommaSeparated kind others) :
    CommaSeparated kind (part ++ .punctuation ',' :: others) := by
  obtain ⟨parts, hne, hparts, rfl⟩ := hothers
  cases parts with
  | nil => exact absurd rfl hne
  | cons next parts =>
    exact ⟨part :: next :: parts, List.cons_ne_nil _ _, List.forall_mem_cons.mpr ⟨hpart, hparts⟩,
      rfl⟩

theorem spellsBefore_comma : SpellsBefore anything [.punctuation ','] ", ".toList :=
  (spellsBefore_punctuation ',').append_free spellsBefore_space

/-- Templates with commas between them. -/
theorem WritesIn.join {templates : List Template} (hne : templates ≠ [])
    (htemplates : ∀ template ∈ templates, WritesIn style template kind) :
    WritesIn style (join ", ".toList templates) (CommaSeparated kind) := by
  induction templates with
  | nil => exact absurd rfl hne
  | cons template others ih =>
    obtain ⟨hfirst, hothers⟩ := List.forall_mem_cons.mp htemplates
    cases others with
    | nil =>
      exact hfirst.mono fun symbols hsymbols ↦
        ⟨[symbols], List.cons_ne_nil _ _, List.forall_mem_singleton.mpr hsymbols, rfl⟩
    | cons next others =>
      have hrest : WritesIn style (.code ", ".toList :: Template.join ", ".toList (next :: others))
          fun symbols ↦ ∃ rest, CommaSeparated kind rest ∧ symbols = .punctuation ',' :: rest :=
        (ih (List.cons_ne_nil _ _) hothers).cons_code spellsBefore_comma
          fun rest hrest ↦ ⟨rest, hrest, rfl⟩
      refine hfirst.append hrest ⟨',', _, _, rfl, by decide⟩ ?_
      rintro left right hleft ⟨symbols, hsymbols, rfl⟩
      exact .cons hleft hsymbols

end Template

/-! ### Writing expressions -/

open Template (WritesIn CommaSeparated isSeparator)

/-- The symbol of an operator. -/
def BinaryOperator.symbol : BinaryOperator → Symbol
  | .and => .word "AND".toList
  | operator => .operator operator.text

theorem BinaryOperator.spellsBefore_text {operator : BinaryOperator}
    (hnamed : operator.isNamed = true) :
    SpellsBefore anything [operator.symbol] ([' '] ++ operator.text ++ [' ']) := by
  cases operator with
  | custom text => cases hnamed
  | and => exact (spellsBefore_word _).spaced (by simp [Token.endsWord])
  | equal | notEqual | less | lessOrEqual | greater | greaterOrEqual =>
    exact (spellsBefore_symbol (.operator _)).spaced (.inl rfl)

/-- What ends with a word is spelled before a separator. -/
theorem SpellsBefore.of_endsWord {symbols : List Symbol} {part : Text}
    (hpart : SpellsBefore Token.endsWord symbols part) : SpellsBefore isSeparator symbols part :=
  hpart.mono fun _ ↦ Token.endsWord_of_mem_separators

theorem spellsBefore_quote (content : Text) :
    SpellsBefore isSeparator [.string content] (quote content) :=
  (spellsBefore_symbol (.string content)).mono fun _ ↦ Template.ne_quote_of_isSeparator

/-- A name that is qualified or not. -/
theorem exists_isName {isKeyword : Text → Bool} {qualifier : Option Text} {name : Text}
    (hqualifier : ∀ other ∈ qualifier, isIdentifier other = true)
    (hname : isIdentifier name = true)
    (hfree : ∀ other ∈ qualifier.toList ++ [name], isKeyword other = false) :
    ∃ symbols, IsName isKeyword symbols ∧
      SpellsBefore Token.endsWord symbols (qualifiedText qualifier name) := by
  have hword := spellsBefore_word name
  cases qualifier with
  | none => exact ⟨_, .plain hname (hfree name (by simp)), hword⟩
  | some qualifier =>
    have hpoint : SpellsBefore Token.endsWord [.point, .word name] (['.'] ++ name) := by
      obtain ⟨c, chars, rfl, hstart, -⟩ := isIdentifier_iff.mp hname
      exact (spellsBefore_symbol .point).append hword hstart
    refine ⟨_, .qualified (hqualifier qualifier rfl) (hfree qualifier (by simp)) hname
      (hfree name (by simp)), ?_⟩
    rw [qualifiedText, List.append_assoc]
    exact (spellsBefore_word qualifier).append hpoint (by simp [Token.endsWord])

namespace Expression

variable {isKeyword : Text → Bool} {dialect : Dialect} {style : PlaceholderStyle} {depth : Nat}

/-- A value whose text in a style is a value of a dialect. -/
def WritesValue (dialect : Dialect) (style : PlaceholderStyle) (value : Json) : Prop :=
  ∀ number, ∃ symbol : Symbol, symbol.IsValue dialect ∧
    SpellsBefore isSeparator [symbol] (style.slotText number value)

/-- The placeholder of a dialect in its own style. -/
theorem writesValue_placeholder (dialect : Dialect) (value : Json) :
    WritesValue dialect (.ofDialect dialect) value := by
  intro number
  cases dialect with
  | sqlOperator => exact ⟨_, .numbered rfl number, spellsBefore_symbol (.placeholder _)⟩
  | sqlFunction | document | generic =>
    exact ⟨_, .questionMark (by decide), spellsBefore_symbol (.placeholder _)⟩

theorem writes_string {content : Text} (hcontent : Token.KeepsBackslashes content) :
    WritesIn style [.literal content] (· = [.string content]) := by
  refine ⟨by simpa using hcontent, fun number ↦ ⟨_, rfl, ?_⟩⟩
  rw [Template.fill, Template.fill, List.append_nil]
  exact spellsBefore_quote content

theorem writes_slot {value : Json} (hvalue : WritesValue dialect style value) :
    WritesIn style [.slot value] fun symbols ↦
      ∃ symbol : Symbol, symbol.IsValue dialect ∧ symbols = [symbol] := by
  refine ⟨by simp, fun number ↦ ?_⟩
  obtain ⟨symbol, hsymbol, hspells⟩ := hvalue number
  rw [Template.fill, Template.fill, List.append_nil]
  exact ⟨[symbol], ⟨symbol, hsymbol, rfl⟩, hspells⟩

/-- A predicate that no row satisfies compares two numbers. -/
theorem writes_alwaysFalse :
    WritesIn style alwaysFalse.template (IsExpression isKeyword dialect depth) := by
  have hdigit (digit : Char) : SpellsBefore isSeparator [.number digit] [digit] :=
    spellsBefore_symbol (.number digit)
  have hone : IsExpression isKeyword dialect depth [.number '1'] := .value (.number (by decide))
  have hzero : IsExpression isKeyword dialect depth [.number '0'] := .value (.number (by decide))
  have hequal : SpellsBefore anything [.operator "=".toList] " = ".toList :=
    BinaryOperator.spellsBefore_text (rfl : BinaryOperator.equal.isNamed = true)
  have hright : WritesIn style [.code " = ".toList, .code ['0']]
      (· = [.operator "=".toList, .number '0']) :=
    WritesIn.cons_code hequal (WritesIn.codeSymbols (hdigit '0')) (by rintro _ rfl; rfl)
  refine WritesIn.append (WritesIn.codeSymbols (hdigit '1')) hright ⟨' ', _, _, rfl, by decide⟩ ?_
  rintro left right rfl rfl
  exact .operator (by decide) hone hzero

theorem writes_closing : WritesIn style [.code [')']] (· = [.punctuation ')']) :=
  WritesIn.codeSymbols ((spellsBefore_punctuation ')').mono fun _ _ ↦ trivial)

/-- Expressions with commas between them and a closing bracket behind. -/
theorem writes_list {expressions : List Expression} (hne : expressions ≠ [])
    (hexpressions : ∀ expression ∈ expressions,
      WritesIn style expression.template (IsExpression isKeyword dialect depth)) :
    WritesIn style (Template.join ", ".toList (templateList expressions) ++ [.code [')']])
      fun symbols ↦ ∃ parts, parts ≠ [] ∧
        (∀ part ∈ parts, IsExpression isKeyword dialect depth part) ∧
          symbols = commaSeparated parts ++ [.punctuation ')'] := by
  rw [templateList_eq_map]
  have hlist := WritesIn.join (List.map_eq_nil_iff.not.mpr hne)
    (List.forall_mem_map.mpr hexpressions)
  refine hlist.append writes_closing ⟨')', _, _, rfl, by decide⟩ ?_
  rintro left right ⟨parts, hparts, hall, rfl⟩ rfl
  exact ⟨parts, hparts, hall, rfl⟩

/-- A pattern that is a value, and its escape character. -/
theorem writes_pattern {value : Json} (hvalue : WritesValue dialect style value) {escape : Char}
    (hescape : escape ≠ '\\') :
    WritesIn style (.code " LIKE ".toList :: ([.slot value] ++
      [.code " ESCAPE ".toList, .literal [escape]])) fun symbols ↦
        ∃ pattern : Symbol, pattern.IsValue dialect ∧ symbols =
          [.word "LIKE".toList, pattern, .word "ESCAPE".toList, .string [escape]] := by
  have hword (word : Text) : SpellsBefore anything [.word word] ([' '] ++ word ++ [' ']) :=
    (spellsBefore_word word).spaced (by simp [Token.endsWord])
  have hcharacter : WritesIn style [.code " ESCAPE ".toList, .literal [escape]]
      (· = [.word "ESCAPE".toList, .string [escape]]) :=
    WritesIn.cons_code (hword "ESCAPE".toList) (writes_string (.other hescape .nil))
      (by rintro _ rfl; rfl)
  have hpattern : WritesIn style ([.slot value] ++ [.code " ESCAPE ".toList, .literal [escape]])
      fun symbols ↦ ∃ pattern : Symbol, pattern.IsValue dialect ∧
        symbols = [pattern, .word "ESCAPE".toList, .string [escape]] := by
    refine (writes_slot hvalue).append hcharacter ⟨' ', _, _, rfl, by decide⟩ ?_
    rintro _ _ ⟨pattern, hpattern, rfl⟩ rfl
    exact ⟨pattern, hpattern, rfl⟩
  refine WritesIn.cons_code (hword "LIKE".toList) hpattern ?_
  rintro _ ⟨pattern, hpattern, rfl⟩
  exact ⟨pattern, hpattern, rfl⟩

theorem spellsBefore_isNotNull : SpellsBefore isSeparator
    [.word "IS".toList, .word "NOT".toList, .word "NULL".toList] " IS NOT NULL".toList :=
  ((spellsBefore_word_space "IS".toList).append_free
    ((spellsBefore_word_space "NOT".toList).append_free
      (spellsBefore_word "NULL".toList).of_endsWord)).cons_space

theorem spellsBefore_members :
    SpellsBefore anything [.word "IN".toList, .punctuation '('] " IN (".toList :=
  ((spellsBefore_word_space "IN".toList).append_free (spellsBefore_punctuation '(')).cons_space

/-- A step into a JSON value. -/
theorem writes_step {content : Text} (hcontent : Token.KeepsBackslashes content) (asText : Bool) :
    WritesIn style [.code (if asText then "->>".toList else "->".toList), .literal content]
      (· = [.operator (if asText then "->>".toList else "->".toList), .string content]) := by
  refine ⟨by simpa using hcontent, fun number ↦ ⟨_, rfl, ?_⟩⟩
  rw [Template.fill, Template.fill, Template.fill, List.append_nil]
  exact (spellsBefore_symbol (.operator _)).append (spellsBefore_quote content) (.inr rfl)

/-- Two expressions with an operator between them. -/
theorem writes_binary {left right : Expression} {operator : BinaryOperator}
    (hoperator : operator.isNamed = true)
    (hleft : WritesIn style left.template (IsExpression isKeyword dialect depth))
    (hright : WritesIn style right.template (IsExpression isKeyword dialect depth)) :
    WritesIn style (Expression.binary left operator right).template
      (IsExpression isKeyword dialect depth) := by
  have htail : WritesIn style (.code ([' '] ++ operator.text ++ [' ']) :: right.template)
      fun symbols ↦ ∃ others, IsExpression isKeyword dialect depth others ∧
        symbols = operator.symbol :: others :=
    hright.cons_code (BinaryOperator.spellsBefore_text hoperator)
      fun others hothers ↦ ⟨others, hothers, rfl⟩
  refine hleft.append htail ⟨' ', _, _, rfl, by decide⟩ ?_
  rintro symbols _ hsymbols ⟨others, hothers, rfl⟩
  cases operator with
  | custom text => cases hoperator
  | and => exact .and hsymbols hothers
  | equal | notEqual | less | lessOrEqual | greater | greaterOrEqual =>
    exact .operator (by decide) hsymbols hothers

theorem writes_call {function : Text} {arguments : List Expression}
    (hfunction : function ∈ jsonFunctions) (hne : arguments ≠ [])
    (harguments : ∀ argument ∈ arguments,
      WritesIn style argument.template (IsExpression isKeyword dialect depth)) :
    WritesIn style (Expression.call function arguments).template
      (IsExpression isKeyword dialect (depth + 1)) := by
  have hopening : SpellsBefore anything [.word function, .punctuation '('] (function ++ ['(']) :=
    (spellsBefore_word function).append (spellsBefore_punctuation '(') (by simp [Token.endsWord])
  refine WritesIn.cons_code hopening (writes_list hne harguments) ?_
  rintro _ ⟨parts, hparts, hall, rfl⟩
  exact .call hfunction hparts hall

theorem writes_inList {target : Expression} {items : List Expression} (hne : items ≠ [])
    (htarget : WritesIn style target.template (IsExpression isKeyword dialect (depth + 1)))
    (hitems : ∀ item ∈ items,
      WritesIn style item.template (IsExpression isKeyword dialect depth)) :
    WritesIn style (Expression.inList target items).template
      (IsExpression isKeyword dialect (depth + 1)) := by
  have hmembers : WritesIn style (.code " IN (".toList ::
      (Template.join ", ".toList (templateList items) ++ [.code [')']]))
      fun symbols ↦ ∃ parts, parts ≠ [] ∧
        (∀ part ∈ parts, IsExpression isKeyword dialect depth part) ∧
          symbols = .word "IN".toList :: .punctuation '(' ::
            (commaSeparated parts ++ [.punctuation ')']) := by
    refine (writes_list hne hitems).cons_code spellsBefore_members ?_
    rintro _ ⟨parts, hparts, hall, rfl⟩
    exact ⟨parts, hparts, hall, rfl⟩
  refine htarget.append hmembers ⟨' ', _, _, rfl, by decide⟩ ?_
  rintro symbols _ hsymbols ⟨parts, hparts, hall, rfl⟩
  exact .inList hsymbols hparts hall

theorem writes_jsonAccess {target : Expression} {content : Text}
    (hcontent : Token.KeepsBackslashes content) (asText : Bool)
    (htarget : WritesIn style target.template (IsExpression isKeyword dialect depth)) :
    WritesIn style (Expression.jsonAccess target (.string content) asText).template
      (IsExpression isKeyword dialect depth) := by
  have hstart : Template.StartsApart
      [.code (if asText then "->>".toList else "->".toList), .literal content] := by
    cases asText with
    | false => exact ⟨'-', _, _, rfl, by decide⟩
    | true => exact ⟨'-', _, _, rfl, by decide⟩
  refine htarget.append (writes_step hcontent asText) hstart ?_
  rintro symbols _ hsymbols rfl
  exact .operator (by cases asText <;> decide) hsymbols (.value (.string hcontent))

theorem writes_nested {inner : Expression}
    (hinner : WritesIn style inner.template (IsExpression isKeyword dialect depth)) :
    WritesIn style (Expression.nested inner).template
      (IsExpression isKeyword dialect (depth + 1)) := by
  have hrest : WritesIn style (inner.template ++ [.code [')']])
      fun symbols ↦ ∃ others, IsExpression isKeyword dialect depth others ∧
        symbols = others ++ [.punctuation ')'] := by
    refine hinner.append writes_closing ⟨')', _, _, rfl, by decide⟩ ?_
    rintro others _ hothers rfl
    exact ⟨others, hothers, rfl⟩
  refine WritesIn.cons_code (spellsBefore_punctuation '(') hrest ?_
  rintro _ ⟨inner, hinner, rfl⟩
  exact .nested hinner

/-- Readable expressions are written as expressions of the grammar. -/
theorem IsReadable.writes {expression : Expression} (hreadable : expression.IsReadable depth)
    (hnames : ∀ name ∈ expression.names, isKeyword name = false)
    (hvalues : ∀ value ∈ expression.values, WritesValue dialect style value) :
    WritesIn style expression.template (IsExpression isKeyword dialect depth) := by
  induction hreadable with
  | column htable hname =>
    obtain ⟨symbols, hsymbols, hspells⟩ := exists_isName htable hname hnames
    exact WritesIn.code hspells.of_endsWord (.name hsymbols)
  | string hcontent =>
    refine (writes_string hcontent).mono ?_
    rintro _ rfl
    exact .value (.string hcontent)
  | bind value =>
    refine (writes_slot (hvalues value List.mem_cons_self)).mono ?_
    rintro _ ⟨symbol, hsymbol, rfl⟩
    exact .value hsymbol
  | binary hoperator _ _ hleft hright =>
    obtain ⟨hleftNames, hrightNames⟩ := List.forall_mem_append.mp hnames
    obtain ⟨hleftValues, hrightValues⟩ := List.forall_mem_append.mp hvalues
    exact writes_binary hoperator (hleft hleftNames hleftValues) (hright hrightNames hrightValues)
  | never => exact writes_alwaysFalse
  | call hfunction hne _ harguments =>
    rw [names, namesList_eq_flatMap, List.forall_mem_flatMap] at hnames
    rw [values, valuesList_eq_flatMap, List.forall_mem_flatMap] at hvalues
    exact writes_call hfunction hne fun argument hmem ↦
      harguments argument hmem (hnames argument hmem) (hvalues argument hmem)
  | like value hescape _ htarget =>
    obtain ⟨htargetNames, -⟩ := List.forall_mem_append.mp hnames
    obtain ⟨htargetValues, hpattern⟩ := List.forall_mem_append.mp hvalues
    refine (htarget htargetNames htargetValues).append
      (writes_pattern (hpattern value List.mem_cons_self) hescape) ⟨' ', _, _, rfl, by decide⟩ ?_
    rintro symbols _ hsymbols ⟨pattern, hpattern, rfl⟩
    exact .like hsymbols hpattern hescape
  | inList _ hne _ htarget hitems =>
    rw [names, namesList_eq_flatMap] at hnames
    rw [values, valuesList_eq_flatMap] at hvalues
    obtain ⟨htargetNames, hitemsNames⟩ := List.forall_mem_append.mp hnames
    obtain ⟨htargetValues, hitemsValues⟩ := List.forall_mem_append.mp hvalues
    rw [List.forall_mem_flatMap] at hitemsNames hitemsValues
    exact writes_inList hne (htarget htargetNames htargetValues) fun item hmem ↦
      hitems item hmem (hitemsNames item hmem) (hitemsValues item hmem)
  | isNotNull _ hoperand =>
    refine (hoperand hnames hvalues).append
      (WritesIn.codeSymbols spellsBefore_isNotNull) ⟨' ', _, _, rfl, by decide⟩ ?_
    rintro symbols _ hsymbols rfl
    exact .isNotNull hsymbols
  | jsonAccess asText _ hcontent htarget =>
    obtain ⟨htargetNames, -⟩ := List.forall_mem_append.mp hnames
    obtain ⟨htargetValues, -⟩ := List.forall_mem_append.mp hvalues
    exact writes_jsonAccess hcontent asText (htarget htargetNames htargetValues)
  | nested _ hinner => exact writes_nested (hinner hnames hvalues)

end Expression

/-! ### Writing statements -/

open Expression (WritesValue)

section

variable {isKeyword : Text → Bool} {dialect : Dialect} {style : PlaceholderStyle}

theorem SelectItem.IsReadable.writes {item : SelectItem} (hitem : item.IsReadable)
    (hnames : ∀ name ∈ item.names, isKeyword name = false)
    (hvalues : ∀ value ∈ item.values, WritesValue dialect style value) :
    WritesIn style item.template (IsItem isKeyword dialect) := by
  rcases item with _ | ⟨content, resultName⟩
  · exact WritesIn.code ((spellsBefore_punctuation '*').mono fun _ _ ↦ trivial) .wildcard
  · obtain ⟨hcontent, hname⟩ := hitem
    obtain ⟨hcontentNames, hresultName⟩ := List.forall_mem_append.mp hnames
    have hexpression := hcontent.writes hcontentNames hvalues
    cases resultName with
    | none => exact hexpression.mono fun _ ↦ .expression
    | some name =>
      have hspells : SpellsBefore isSeparator [.word "AS".toList, .word name]
          (" AS ".toList ++ name) :=
        ((spellsBefore_word_space "AS".toList).append_free
          (spellsBefore_word name).of_endsWord).cons_space
      refine hexpression.append (WritesIn.codeSymbols hspells)
        ⟨' ', _, _, rfl, by decide⟩ ?_
      rintro symbols _ hsymbols rfl
      exact .named hsymbols (hname name rfl) (hresultName name (by simp))

theorem OrderItem.IsReadable.writes {item : OrderItem} (hitem : item.IsReadable)
    (hnames : ∀ name ∈ item.names, isKeyword name = false)
    (hvalues : ∀ value ∈ item.values, WritesValue dialect style value) :
    WritesIn style item.template (IsOrderItem isKeyword dialect) := by
  have hexpression := hitem.expression.writes hnames hvalues
  obtain ⟨expression, direction⟩ := item
  cases direction with
  | none => cases hitem.direction
  | some direction =>
    have hspells : SpellsBefore isSeparator [.word direction.name] (' ' :: direction.name) :=
      (spellsBefore_word direction.name).of_endsWord.cons_space
    refine hexpression.append (WritesIn.codeSymbols hspells)
      ⟨' ', _, _, rfl, by decide⟩ ?_
    rintro symbols _ hsymbols rfl
    exact .directed direction hsymbols

end

namespace Select

variable {isKeyword : Text → Bool} {dialect : Dialect} {style : PlaceholderStyle}
  {select : Select}

/-- A clause stands behind another one with a space between them. -/
theorem writes_clause {first second : Template} {kind firstKind secondKind : List Symbol → Prop}
    (hfirst : WritesIn style first firstKind) (hsecond : WritesIn style second secondKind)
    (hkind : ∀ left right, firstKind left → secondKind right → kind (left ++ right)) :
    WritesIn style (first ++ .code [' '] :: second) kind :=
  hfirst.append (hsecond.cons_code spellsBefore_space fun _ hsymbols ↦ hsymbols)
    ⟨' ', _, _, rfl, by decide⟩ hkind

theorem writes_projection
    (hitems : ∀ item ∈ select.projections,
      WritesIn style item.template (IsItem isKeyword dialect)) :
    WritesIn style select.projectionTemplate fun symbols ↦ ∃ items, items ≠ [] ∧
      (∀ item ∈ items, IsItem isKeyword dialect item) ∧
      symbols = .word "SELECT".toList :: commaSeparated items := by
  have hlist : WritesIn style (if select.projections.isEmpty then [.code ['*']]
      else Template.join ", ".toList (select.projections.map SelectItem.template))
        (CommaSeparated (IsItem isKeyword dialect)) := by
    split_ifs with hempty
    · exact WritesIn.code ((spellsBefore_punctuation '*').mono fun _ _ ↦ trivial)
        ⟨[[.punctuation '*']], by simp, List.forall_mem_singleton.mpr .wildcard, rfl⟩
    · have hne : select.projections.map SelectItem.template ≠ [] := by
        simpa [List.isEmpty_iff] using hempty
      exact .join hne (List.forall_mem_map.mpr hitems)
  refine WritesIn.cons_code (spellsBefore_word_space "SELECT".toList) hlist ?_
  rintro _ ⟨items, hne, hall, rfl⟩
  exact ⟨items, hne, hall, rfl⟩

theorem writes_table {table : Table} (htable : table.IsPlain)
    (hnames : ∀ name ∈ table.names, isKeyword name = false) :
    WritesIn style [.code ("FROM ".toList ++ table.text)] fun symbols ↦
      ∃ name, IsName isKeyword name ∧ symbols = .word "FROM".toList :: name := by
  obtain ⟨name, hname, hspells⟩ := exists_isName htable.schema htable.name hnames
  exact WritesIn.code ((spellsBefore_word_space "FROM".toList).append_free hspells.of_endsWord)
    ⟨name, hname, rfl⟩

theorem writes_condition {condition : Expression}
    (hcondition : WritesIn style condition.template (IsExpression isKeyword dialect nesting)) :
    WritesIn style (.code "WHERE ".toList :: condition.template)
      (IsConditionClause isKeyword dialect) :=
  WritesIn.cons_code (spellsBefore_word_space "WHERE".toList) hcondition fun _ ↦ .some

theorem writes_ordering (hne : select.ordering ≠ [])
    (hitems : ∀ item ∈ select.ordering,
      WritesIn style item.template (IsOrderItem isKeyword dialect)) :
    WritesIn style (.code "ORDER BY ".toList ::
      Template.join ", ".toList (select.ordering.map OrderItem.template))
      (IsOrderingClause isKeyword dialect) := by
  have hlist := WritesIn.join (List.map_eq_nil_iff.not.mpr hne) (List.forall_mem_map.mpr hitems)
  refine WritesIn.cons_code ((spellsBefore_word_space "ORDER".toList).append_free
    (spellsBefore_word_space "BY".toList)) hlist ?_
  rintro _ ⟨items, hne, hall, rfl⟩
  exact .some hne hall

/-- The table of a statement, with the condition and the ordering behind it. -/
def IsTail (isKeyword : Text → Bool) (dialect : Dialect) (symbols : List Symbol) : Prop :=
  ∃ table condition ordering, IsName isKeyword table ∧
    IsConditionClause isKeyword dialect condition ∧ IsOrderingClause isKeyword dialect ordering ∧
    symbols = .word "FROM".toList :: (table ++ (condition ++ ordering))

/-- The clauses behind the projection are written with a space between them. -/
theorem writes_tail (select : Select) {table : Table} (htable : table.IsPlain)
    (hnames : ∀ name ∈ table.names, isKeyword name = false)
    (hcondition : ∀ condition ∈ select.condition,
      WritesIn style condition.template (IsExpression isKeyword dialect nesting))
    (hordering : ∀ item ∈ select.ordering,
      WritesIn style item.template (IsOrderItem isKeyword dialect)) :
    WritesIn style (Template.join [' '] ([.code ("FROM ".toList ++ table.text)] ::
      (select.conditionTemplate ++ select.orderingTemplate))) (IsTail isKeyword dialect) := by
  have hfrom : WritesIn style _ _ := writes_table htable hnames
  unfold conditionTemplate orderingTemplate
  simp only [List.isEmpty_iff]
  cases hselect : select.condition with
  | none =>
    by_cases hempty : select.ordering = []
    · rw [if_pos hempty]
      refine hfrom.mono ?_
      rintro _ ⟨name, hname, rfl⟩
      exact ⟨name, [], [], hname, .none, .none, by simp⟩
    · rw [if_neg hempty]
      refine writes_clause hfrom (writes_ordering hempty hordering) ?_
      rintro _ ordering ⟨name, hname, rfl⟩ hordering
      exact ⟨name, [], ordering, hname, .none, hordering, rfl⟩
  | some condition =>
    have hwhere := writes_condition (hcondition condition hselect)
    by_cases hempty : select.ordering = []
    · rw [if_pos hempty]
      refine writes_clause hfrom hwhere ?_
      rintro _ clause ⟨name, hname, rfl⟩ hclause
      exact ⟨name, clause, [], hname, hclause, .none, by simp⟩
    · rw [if_neg hempty]
      have hrest : WritesIn style _ fun symbols ↦ ∃ clause ordering,
          IsConditionClause isKeyword dialect clause ∧
            IsOrderingClause isKeyword dialect ordering ∧ symbols = clause ++ ordering :=
        writes_clause hwhere (writes_ordering hempty hordering)
          fun clause ordering hclause hordering ↦ ⟨clause, ordering, hclause, hordering, rfl⟩
      refine writes_clause hfrom hrest ?_
      rintro _ _ ⟨name, hname, rfl⟩ ⟨clause, ordering, hclause, hordering, rfl⟩
      exact ⟨name, clause, ordering, hname, hclause, hordering, rfl⟩

/-- A readable statement is written as a statement of the grammar. -/
theorem IsReadable.writes (hselect : select.IsReadable)
    (hnames : ∀ name ∈ select.names, isKeyword name = false)
    (hvalues : ∀ value ∈ select.values, WritesValue dialect style value) :
    WritesIn style select.template (IsStatement isKeyword dialect) := by
  simp only [names, List.forall_mem_append, List.forall_mem_flatMap] at hnames
  simp only [values, List.forall_mem_append, List.forall_mem_flatMap] at hvalues
  obtain ⟨⟨⟨hitemNames, htableNames⟩, hconditionNames⟩, horderNames⟩ := hnames
  obtain ⟨hitemValues, hconditionValues, horderValues⟩ := hvalues
  obtain ⟨table, htables, htable⟩ := hselect.tables
  have hprojection := writes_projection fun item hitem ↦
    (hselect.projections item hitem).writes (hitemNames item hitem) (hitemValues item hitem)
  have htail := select.writes_tail htable
    (htableNames table (htables ▸ List.mem_cons_self))
    (fun condition hmem ↦ (hselect.condition condition hmem).writes
      (hconditionNames condition (by simpa using hmem))
      (hconditionValues condition (by simpa using hmem)))
    fun item hmem ↦ (hselect.ordering item hmem).writes (horderNames item hmem)
      (horderValues item hmem)
  unfold template tablesTemplate
  simp only [htables, List.isEmpty_cons, List.map_singleton, Text.join]
  refine writes_clause hprojection htail ?_
  rintro _ _ ⟨items, hne, hall, rfl⟩ ⟨name, condition, ordering, hname, hcondition, hordering, rfl⟩
  exact .intro hne hall hname hcondition hordering

/-- Parsers that read statements accept the text of a readable one. -/
theorem IsReadable.accepts {parser : Parser} (hparser : parser.ReadsStatements)
    (hselect : select.IsReadable) (hnames : ∀ name ∈ select.names, parser.isKeyword name = false)
    (hvalues : ∀ value ∈ select.values, WritesValue dialect style value) :
    parser.accepts dialect (select.compile style).sql = true := by
  obtain ⟨symbols, hsymbols, hspells⟩ := (hselect.writes hnames hvalues).spells 1
  have hwhole := hspells [] [] (by simp [GoesOnWith]) .nil
  rw [List.append_nil, List.append_nil] at hwhole
  rw [compile, written_eq]
  exact hparser.accepts_of_spells hsymbols hwhole

end Select

end KeyPathQuery.Sql
