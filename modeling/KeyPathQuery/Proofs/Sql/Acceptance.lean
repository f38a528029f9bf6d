import KeyPathQuery.Proofs.Sql.StatementGrammar

/-!
The acceptor reads statements. Its tokens are those of the symbols, whatever spaces stand between
them (`ofText?_of_spells`). What is left is how it goes through the tokens of each form of symbols.

An expression may stand in any clause and between any brackets, and the acceptor reads it there
without a look at what is around: it goes from a state in which an expression may start to one in
which it is complete, at the same place (`Acceptor.Place`). Brackets lead to another place and
back. A statement goes from clause to clause: the projection ends where FROM may follow, the table
where a condition or an ordering may, the condition where an ordering may. Wherever a statement can
stop, the text may end.

Main statement: `Parser.readsStatements_acceptor`.
-/

set_option autoImplicit false
set_option relaxedAutoImplicit false

namespace KeyPathQuery.Sql

open Token (ReadAs GoesOnWith)

/-! ### Tokens of symbols -/

namespace Symbol

/-- The token of a symbol. -/
def token : Symbol → Token
  | .word name => .word name
  | .number _ => .number
  | .string _ => .string
  | .placeholder _ => .placeholder
  | .punctuation mark => .sign [mark]
  | .point => .sign ['.']
  | .operator sign => .sign sign

/-- A symbol is read as its token, before the characters that may stand right behind it. -/
def IsRead (dialect : Dialect) (symbol : Symbol) : Prop :=
  ReadAs (.ofDialect dialect) symbol.EndsBefore symbol.text [symbol.token]

theorem IsValue.isRead {dialect : Dialect} {symbol : Symbol} (hvalue : symbol.IsValue dialect) :
    symbol.IsRead dialect := by
  cases hvalue with
  | number hdigit => exact Token.readAs_digit dialect hdigit
  | string hcontent => exact Token.readAs_quote dialect hcontent
  | numbered hdialect place =>
    subst hdialect
    exact Token.readAs_placeholder .sqlOperator place .null
  | questionMark hdialect =>
    have hplaceholder := Token.readAs_placeholder dialect 0 .null
    cases dialect with
    | sqlOperator => exact absurd rfl hdialect
    | sqlFunction | document | generic => exact hplaceholder

end Symbol

/-- A text is read as the tokens of the symbols that it spells. -/
theorem ofText?_of_spells {dialect : Dialect} {symbols : List Symbol} {text : Text}
    (hspells : Spells symbols text) (hread : ∀ symbol ∈ symbols, symbol.IsRead dialect) :
    Token.ofText? (.ofDialect dialect) text = some (symbols.map Symbol.token) := by
  induction hspells with
  | nil =>
    rw [Token.ofText?]
    rfl
  | space _ ih =>
    rw [Token.ofText?_space]
    exact ih hread
  | cons hend _ ih =>
    obtain ⟨hsymbol, hrest⟩ := List.forall_mem_cons.mp hread
    rw [hsymbol _ hend, ih hrest]
    rfl

/-! ### Keywords -/

theorem ne_of_not_isKeyword {name : Text} (hname : isKeyword name = false) {word : String}
    (hword : word ∈ keywords) : name.map Char.toUpper ≠ word.toList := by
  have hnone : ∀ word ∈ keywords, ¬ word.toList = name.map Char.toUpper := by
    simpa [isKeyword, Token.isOneOf, Token.keyword?] using hname
  exact Ne.symm (hnone word hword)

theorem not_isOneOf_of_not_isKeyword {name : Text} (hname : isKeyword name = false)
    (words : List String) (hwords : words ⊆ keywords) :
    (Token.word name).isOneOf words = false := by
  simpa [Token.isOneOf, Token.keyword?] using
    fun word hword ↦ (ne_of_not_isKeyword hname (hwords hword)).symm

/-- A name that is no keyword is none of the words that a grammar reserves. -/
theorem not_contains_of_not_isKeyword {name : Text} (hname : isKeyword name = false)
    {words : List Text} (hwords : ∀ word ∈ words, ∃ keyword ∈ keywords, word = keyword.toList) :
    words.contains (name.map Char.toUpper) = false := by
  rw [List.contains_eq_mem, decide_eq_false_iff_not]
  intro hmem
  obtain ⟨keyword, hkeyword, heq⟩ := hwords _ hmem
  exact ne_of_not_isKeyword hname hkeyword heq

/-- Whether a token stands for a value. -/
def Token.isValue : Token → Bool
  | .number | .string | .placeholder => true
  | _ => false

/-! ### States -/

/-- The expectations in which an expression may come next. -/
def Expectation.startsExpression : Expectation → Bool
  | .selectStart | .item | .operand | .firstArgument | .argument => true
  | _ => false

namespace Acceptor

/-- A clause and the brackets around an expression in it. -/
structure Place where
  clause : Clause
  bracket : Option Bracket
  enclosing : List Level

namespace Place

/-- The state at a place with nothing left open, in which something may come next. -/
def state (place : Place) (expectation : Expectation) : Acceptor :=
  ⟨place.clause, Level.start place.bracket, place.enclosing, expectation⟩

@[simp] theorem expectation_state (place : Place) (expectation : Expectation) :
    (place.state expectation).expectation = expectation := rfl

/-- The place between new brackets. -/
def inside (place : Place) (bracket : Bracket) : Place :=
  ⟨place.clause, some bracket, Level.start place.bracket :: place.enclosing⟩

/-- An expression may start at a place. -/
def Open (place : Place) (state : Acceptor) : Prop :=
  ∃ expectation, expectation.startsExpression = true ∧ state = place.state expectation

/-- An expression at a place is complete. -/
def Complete (place : Place) (state : Acceptor) : Prop :=
  state = place.state .afterName ∨ state = place.state .afterOperand

variable {place : Place} {state : Acceptor}

/-- A word that is no keyword is a name wherever an expression may start. -/
theorem Open.run_word (hopen : place.Open state) (dialect : Dialect) {name : Text}
    (hname : isKeyword name = false) :
    state.run (.ofDialect dialect) [.word name] = some (place.state .afterName) := by
  have hfrom := not_isOneOf_of_not_isKeyword hname ["FROM"] (by decide)
  have hdistinct := not_isOneOf_of_not_isKeyword hname ["DISTINCT", "ALL"] (by decide)
  have hnot := not_isOneOf_of_not_isKeyword hname ["NOT"] (by decide)
  have hconstant := not_isOneOf_of_not_isKeyword hname ["NULL", "TRUE", "FALSE"] (by decide)
  have hreserved : (Grammar.ofDialect dialect).reservedOperands.contains
      (name.map Char.toUpper) = false :=
    not_contains_of_not_isKeyword hname (by cases dialect <;> decide)
  have hoperand (expectation : Expectation) :
      (place.state expectation).operand? (.ofDialect dialect) (.word name) =
        some (place.state .afterName) := by
    simp only [operand?, hreserved, hnot, hconstant, Bool.false_eq_true, if_false]
    rfl
  obtain ⟨expectation, hstarts, rfl⟩ := hopen
  cases expectation with
  | operand => simpa [run, step] using hoperand .operand
  | item => simpa [run, step, hfrom, Token.isSignOf] using hoperand .item
  | selectStart => simpa [run, step, hfrom, hdistinct, Token.isSignOf] using hoperand .selectStart
  | firstArgument => simpa [run, step, Token.isSignOf] using hoperand .firstArgument
  | argument => simpa [run, step, Token.isSignOf] using hoperand .argument
  | _ => cases hstarts

/-- A value is an expression wherever one may start. -/
theorem Open.run_value (hopen : place.Open state) (dialect : Dialect) {token : Token}
    (htoken : token.isValue = true) :
    state.run (.ofDialect dialect) [token] = some (place.state .afterOperand) := by
  obtain ⟨expectation, hstarts, rfl⟩ := hopen
  cases token with
  | number | string | placeholder => cases expectation <;> first | rfl | cases hstarts
  | word | quotedName | sign => cases htoken

theorem Open.run_bracket (hopen : place.Open state) (dialect : Dialect) :
    state.run (.ofDialect dialect) [.sign ['(']] = some ((place.inside .group).state .operand) := by
  obtain ⟨expectation, hstarts, rfl⟩ := hopen
  cases expectation <;> first | rfl | cases hstarts

end Place

/-! ### Parts of a statement -/

/-- Symbols are read one by one, and lead the acceptor from states of one kind to states of
another. -/
structure Leads (dialect : Dialect) (symbols : List Symbol) (source target : Acceptor → Prop) :
    Prop where
  isRead : ∀ symbol ∈ symbols, symbol.IsRead dialect
  run : ∀ state, source state → ∃ next, target next ∧
    state.run (.ofDialect dialect) (symbols.map Symbol.token) = some next

variable {dialect : Dialect} {symbols others : List Symbol}
  {source middle target : Acceptor → Prop}

theorem Leads.append (hfirst : Leads dialect symbols source middle)
    (hsecond : Leads dialect others middle target) :
    Leads dialect (symbols ++ others) source target := by
  refine ⟨List.forall_mem_append.mpr ⟨hfirst.isRead, hsecond.isRead⟩, fun state hstate ↦ ?_⟩
  obtain ⟨between, hmiddle, hleft⟩ := hfirst.run state hstate
  obtain ⟨next, htarget, hright⟩ := hsecond.run between hmiddle
  refine ⟨next, htarget, ?_⟩
  rw [List.map_append, run_append, hleft, Option.bind_some, hright]

theorem Leads.cons {symbol : Symbol} (hfirst : Leads dialect [symbol] source middle)
    (hsecond : Leads dialect others middle target) :
    Leads dialect (symbol :: others) source target :=
  hfirst.append hsecond

theorem Leads.nil : Leads dialect [] source source :=
  ⟨List.forall_mem_nil _, fun state hstate ↦ ⟨state, hstate, rfl⟩⟩

theorem Leads.mono {narrower wider : Acceptor → Prop}
    (hsymbols : Leads dialect symbols source target)
    (hnarrower : ∀ state, narrower state → source state)
    (hwider : ∀ state, target state → wider state) : Leads dialect symbols narrower wider := by
  refine ⟨hsymbols.isRead, fun state hstate ↦ ?_⟩
  obtain ⟨next, hnext, hrun⟩ := hsymbols.run state (hnarrower state hstate)
  exact ⟨next, hwider next hnext, hrun⟩

/-- Words of the grammar, which are identifiers. -/
theorem Leads.words (words : List String)
    (hwords : ∀ word ∈ words, isIdentifier word.toList = true)
    (hrun : ∀ state, source state → ∃ next, target next ∧
      state.run (.ofDialect dialect) (words.map (.word ·.toList)) = some next) :
    Leads dialect (words.map (.word ·.toList)) source target := by
  refine ⟨List.forall_mem_map.mpr fun word hmem ↦ Token.readAs_word dialect (hwords word hmem), ?_⟩
  rw [List.map_map]
  exact hrun

theorem Leads.punctuation {mark : Char} (hmark : mark ∈ ['(', ')', ',', '*'])
    (hrun : ∀ state, source state → ∃ next, target next ∧
      state.run (.ofDialect dialect) [.sign [mark]] = some next) :
    Leads dialect [.punctuation mark] source target :=
  ⟨List.forall_mem_singleton.mpr (Token.readAs_punctuation dialect hmark), hrun⟩

/-- Parts with commas between them, each of which leads to where a comma may follow. -/
theorem Leads.commaSeparated {parts : List (List Symbol)} (hne : parts ≠ [])
    (hparts : ∀ part ∈ parts, Leads dialect part source target)
    (hcomma : ∀ state, target state → ∃ next, source next ∧
      state.run (.ofDialect dialect) [.sign [',']] = some next) :
    Leads dialect (commaSeparated parts) source target := by
  induction parts with
  | nil => exact absurd rfl hne
  | cons part others ih =>
    obtain ⟨hfirst, hothers⟩ := List.forall_mem_cons.mp hparts
    cases others with
    | nil => exact hfirst
    | cons next others =>
      exact hfirst.append ((Leads.punctuation (by decide) hcomma).cons
        (ih (List.cons_ne_nil _ _) hothers))

end Acceptor

open Acceptor (Place Leads)

/-! ### Expressions -/

section

variable {dialect : Dialect} {place : Place}

theorem Symbol.isValue_token {symbol : Symbol} (hvalue : symbol.IsValue dialect) :
    symbol.token.isValue = true := by
  cases hvalue <;> rfl

/-- A value leads where its token does, whatever value it is. -/
theorem leads_value {symbol : Symbol} (hvalue : symbol.IsValue dialect)
    {source target : Acceptor → Prop}
    (hrun : ∀ token : Token, token.isValue = true → ∀ state, source state → ∃ next, target next ∧
      state.run (.ofDialect dialect) [token] = some next) :
    Leads dialect [symbol] source target :=
  ⟨List.forall_mem_singleton.mpr hvalue.isRead,
    hrun symbol.token (Symbol.isValue_token hvalue)⟩

theorem isRead_of_isName {isKeyword : Text → Bool} {symbols : List Symbol}
    (hname : IsName isKeyword symbols) : ∀ symbol ∈ symbols, symbol.IsRead dialect := by
  cases hname with
  | plain hname hfree => exact List.forall_mem_singleton.mpr (Token.readAs_word dialect hname)
  | qualified hqualifier _ hname _ =>
    simp only [List.forall_mem_cons]
    exact ⟨Token.readAs_word dialect hqualifier, Token.readAs_point dialect,
      Token.readAs_word dialect hname, List.forall_mem_nil _⟩

/-- A name leads from where an expression may start to where it is complete. -/
theorem leads_name {symbols : List Symbol} (hname : IsName isKeyword symbols) :
    Leads dialect symbols place.Open place.Complete := by
  refine ⟨isRead_of_isName hname, fun state hstate ↦ ⟨place.state .afterName, .inl rfl, ?_⟩⟩
  cases hname with
  | plain hname hfree => exact hstate.run_word dialect hfree
  | @qualified qualifier name hqualifier hqualifierFree hname hfree =>
    have htokens : [Symbol.word qualifier, .point, .word name].map Symbol.token =
        [.word qualifier] ++ [.sign ['.'], .word name] := rfl
    rw [htokens, Acceptor.run_append, hstate.run_word dialect hqualifierFree]
    rfl

/-- A closing bracket leads back from between the brackets. -/
theorem leads_closing (bracket : Bracket) :
    Leads dialect [.punctuation ')'] (place.inside bracket).Complete place.Complete := by
  refine .punctuation (by decide) ?_
  rintro state (rfl | rfl)
  all_goals exact ⟨place.state .afterOperand, .inr rfl, by cases dialect <;> rfl⟩

/-- Expressions between brackets, with commas between them. -/
theorem leads_list {bracket : Bracket} {parts : List (List Symbol)} (hne : parts ≠ [])
    (hparts : ∀ part ∈ parts,
      Leads dialect part (place.inside bracket).Open (place.inside bracket).Complete) :
    Leads dialect (commaSeparated parts ++ [.punctuation ')'])
      (place.inside bracket).Open place.Complete := by
  have hcomma (state : Acceptor) (hstate : (place.inside bracket).Complete state) :
      ∃ next, (place.inside bracket).Open next ∧
        state.run (.ofDialect dialect) [.sign [',']] = some next := by
    rcases hstate with rfl | rfl
    all_goals
      cases bracket with
      | arguments => exact ⟨_, ⟨.argument, rfl, rfl⟩, by cases dialect <;> rfl⟩
      | group | members => exact ⟨_, ⟨.operand, rfl, rfl⟩, by cases dialect <;> rfl⟩
  exact (Leads.commaSeparated hne hparts hcomma).append (leads_closing bracket)

/-- The name of a function and an opening bracket lead to its first argument. -/
theorem leads_call {function : Text} (hfunction : function ∈ jsonFunctions) :
    Leads dialect [.word function, .punctuation '('] place.Open (place.inside .arguments).Open := by
  have hfunctions : ∀ function ∈ jsonFunctions,
      isIdentifier function = true ∧ isKeyword function = false := by decide
  obtain ⟨hidentifier, hfree⟩ := hfunctions function hfunction
  have hname : Leads dialect [.word function] place.Open (· = place.state .afterName) :=
    ⟨List.forall_mem_singleton.mpr (Token.readAs_word dialect hidentifier),
      fun state hstate ↦ ⟨_, rfl, hstate.run_word dialect hfree⟩⟩
  refine hname.cons (.punctuation (by decide) ?_)
  rintro state rfl
  exact ⟨(place.inside .arguments).state .firstArgument, ⟨_, rfl, rfl⟩, rfl⟩

theorem leads_opening : Leads dialect [.punctuation '('] place.Open (place.inside .group).Open :=
  .punctuation (by decide) fun _ hstate ↦ ⟨_, ⟨.operand, rfl, rfl⟩, hstate.run_bracket dialect⟩

/-- Behind a complete expression stands a sign and then another expression. -/
theorem leads_operator {sign : Text} (hsign : sign ∈ Token.binarySigns) :
    Leads dialect [.operator sign] place.Complete place.Open := by
  refine ⟨List.forall_mem_singleton.mpr (Token.readAs_binarySign dialect hsign), ?_⟩
  simp only [Token.binarySigns, List.map_cons, List.map_nil, List.mem_cons, List.not_mem_nil,
    or_false] at hsign
  rintro state (rfl | rfl)
  all_goals
    refine ⟨place.state .operand, ⟨.operand, rfl, rfl⟩, ?_⟩
    rcases hsign with rfl | rfl | rfl | rfl | rfl | rfl | rfl | rfl
    all_goals cases dialect <;> rfl

theorem leads_and : Leads dialect [.word "AND".toList] place.Complete place.Open := by
  refine Leads.words ["AND"] (by decide) ?_
  rintro state (rfl | rfl)
  all_goals exact ⟨place.state .operand, ⟨.operand, rfl, rfl⟩, by cases dialect <;> rfl⟩

/-- The state at a place in which the pattern of a LIKE may name its escape character. -/
def patternState (place : Place) (expectation : Expectation) : Acceptor :=
  ⟨place.clause, ⟨place.bracket, true, false⟩, place.enclosing, expectation⟩

/-- A pattern that is a value, and its escape character, complete an expression again. -/
theorem leads_pattern {pattern : Symbol} (hpattern : pattern.IsValue dialect) {escape : Char}
    (hescape : escape ≠ '\\') :
    Leads dialect [.word "LIKE".toList, pattern, .word "ESCAPE".toList, .string [escape]]
      place.Complete place.Complete := by
  have hlike : Leads dialect [.word "LIKE".toList] place.Complete
      (· = patternState place .operand) := by
    refine Leads.words ["LIKE"] (by decide) ?_
    rintro state (rfl | rfl)
    all_goals exact ⟨_, rfl, by cases dialect <;> rfl⟩
  have hvalue : Leads dialect [pattern] (· = patternState place .operand)
      (· = patternState place .afterOperand) := by
    refine leads_value hpattern ?_
    rintro token htoken state rfl
    refine ⟨_, rfl, ?_⟩
    cases token with
    | number | string | placeholder => rfl
    | word | quotedName | sign => cases htoken
  have hword : Leads dialect [.word "ESCAPE".toList] (· = patternState place .afterOperand)
      (· = place.state .escapeCharacter) := by
    refine Leads.words ["ESCAPE"] (by decide) ?_
    rintro state rfl
    exact ⟨_, rfl, by cases dialect <;> rfl⟩
  have hcharacter : Leads dialect [.string [escape]] (· = place.state .escapeCharacter)
      place.Complete := by
    refine ⟨List.forall_mem_singleton.mpr
      (Token.readAs_quote dialect (.other hescape .nil)), ?_⟩
    rintro state rfl
    exact ⟨place.state .afterOperand, .inr rfl, rfl⟩
  exact hlike.cons (hvalue.cons (hword.cons hcharacter))

theorem leads_members :
    Leads dialect [.word "IN".toList, .punctuation '('] place.Complete
      (place.inside .members).Open := by
  have hword :
      Leads dialect [.word "IN".toList] place.Complete (· = place.state .membersStart) := by
    refine Leads.words ["IN"] (by decide) ?_
    rintro state (rfl | rfl)
    all_goals exact ⟨_, rfl, by cases dialect <;> rfl⟩
  refine hword.cons (.punctuation (by decide) ?_)
  rintro state rfl
  exact ⟨(place.inside .members).state .operand, ⟨_, rfl, rfl⟩, rfl⟩

/-- A test completes an expression again. -/
theorem leads_isNotNull :
    Leads dialect [.word "IS".toList, .word "NOT".toList, .word "NULL".toList] place.Complete
      place.Complete := by
  refine Leads.words ["IS", "NOT", "NULL"] (by decide) ?_
  rintro state (rfl | rfl)
  all_goals exact ⟨place.state .afterOperand, .inr rfl, by cases dialect <;> rfl⟩

/-- Expressions lead from where an expression may start to where one is complete. -/
theorem IsExpression.leads {depth : Nat} {symbols : List Symbol}
    (hexpression : IsExpression isKeyword dialect depth symbols) (place : Place) :
    Leads dialect symbols place.Open place.Complete := by
  induction hexpression generalizing place with
  | name hname => exact leads_name hname
  | value hvalue =>
    exact leads_value hvalue fun token htoken state hstate ↦
      ⟨_, .inr rfl, hstate.run_value dialect htoken⟩
  | call hfunction hne _ harguments =>
    exact (leads_call hfunction).append
      (leads_list hne fun argument hmem ↦ harguments argument hmem _)
  | nested _ hinner => exact leads_opening.cons ((hinner _).append (leads_closing .group))
  | operator hsign _ _ hleft hright =>
    exact (hleft place).append ((leads_operator hsign).cons (hright place))
  | and _ _ hleft hright => exact (hleft place).append (leads_and.cons (hright place))
  | like _ hpattern hescape htarget =>
    exact (htarget place).append (leads_pattern hpattern hescape)
  | inList _ hne _ htarget hitems =>
    exact (htarget place).append
      (leads_members.append (leads_list hne fun item hmem ↦ hitems item hmem _))
  | isNotNull _ hoperand => exact (hoperand place).append leads_isNotNull

end

/-! ### Clauses -/

/-- The place of an expression that stands in a clause by itself. -/
def Clause.place (clause : Clause) : Place :=
  ⟨clause, none, []⟩

/-- An item of the projection may start. -/
def itemStarts (state : Acceptor) : Prop :=
  state = Clause.projection.place.state .selectStart ∨ state = Clause.projection.place.state .item

/-- An item of the projection may end. -/
def itemEnds (state : Acceptor) : Prop :=
  Clause.projection.place.Complete state ∨ state = Clause.projection.place.state .afterItem

/-- The name of the table may end. -/
def tableEnds (state : Acceptor) : Prop :=
  state = Clause.tables.place.state .afterTableName

/-- The condition may end, or the table if there is no condition. -/
def conditionEnds (state : Acceptor) : Prop :=
  tableEnds state ∨ Clause.condition.place.Complete state

/-- An item of the ordering may end. -/
def orderItemEnds (state : Acceptor) : Prop :=
  state = Clause.ordering.place.state .afterDirection

/-- The states in which a statement may end. -/
def statementEnds (state : Acceptor) : Prop :=
  conditionEnds state ∨ orderItemEnds state

theorem open_of_itemStarts {state : Acceptor} (hstate : itemStarts state) :
    Clause.projection.place.Open state := by
  rcases hstate with rfl | rfl
  · exact ⟨.selectStart, rfl, rfl⟩
  · exact ⟨.item, rfl, rfl⟩

theorem mayEnd_of_statementEnds {state : Acceptor} (hstate : statementEnds state) :
    state.mayEnd = true := by
  rcases hstate with (rfl | rfl | rfl) | rfl
  all_goals rfl

section

variable {dialect : Dialect} {symbols : List Symbol}

theorem IsItem.leads (hitem : IsItem isKeyword dialect symbols) :
    Leads dialect symbols itemStarts itemEnds := by
  cases hitem with
  | wildcard =>
    refine .punctuation (by decide) ?_
    rintro state (rfl | rfl)
    all_goals exact ⟨_, .inr rfl, rfl⟩
  | expression hexpression =>
    exact (hexpression.leads Clause.projection.place).mono (fun _ ↦ open_of_itemStarts) fun _ ↦ .inl
  | @named symbols name hexpression hname _ =>
    have hword : Leads dialect [.word "AS".toList] Clause.projection.place.Complete
        (· = Clause.projection.place.state .itemName) := by
      refine Leads.words ["AS"] (by decide) ?_
      rintro state (rfl | rfl)
      all_goals exact ⟨_, rfl, by cases dialect <;> rfl⟩
    have hresult : Leads dialect [.word name] (· = Clause.projection.place.state .itemName)
        itemEnds := by
      refine ⟨List.forall_mem_singleton.mpr (Token.readAs_word dialect hname), ?_⟩
      rintro state rfl
      exact ⟨_, .inr rfl, rfl⟩
    exact ((hexpression.leads Clause.projection.place).append (hword.cons hresult)).mono
      (fun _ ↦ open_of_itemStarts) fun _ hstate ↦ hstate

/-- SELECT and the items lead to where FROM may follow. -/
theorem leads_projection {items : List (List Symbol)} (hne : items ≠ [])
    (hitems : ∀ item ∈ items, IsItem isKeyword dialect item) :
    Leads dialect (.word "SELECT".toList :: commaSeparated items) (· = Acceptor.start)
      itemEnds := by
  have hstart : Leads dialect [.word "SELECT".toList] (· = Acceptor.start) itemStarts := by
    refine Leads.words ["SELECT"] (by decide) ?_
    rintro state rfl
    exact ⟨_, .inl rfl, rfl⟩
  refine hstart.cons (Leads.commaSeparated hne (fun item hmem ↦ (hitems item hmem).leads) ?_)
  rintro state ((rfl | rfl) | rfl)
  all_goals exact ⟨_, .inr rfl, by cases dialect <;> rfl⟩

/-- A word that is no keyword is a table. -/
theorem run_table {name : Text} (hname : isKeyword name = false) :
    (Clause.tables.place.state .tableName).run (.ofDialect dialect) [.word name] =
      some (Clause.tables.place.state .afterTableName) := by
  have hreserved : (Grammar.ofDialect dialect).reservedTables.contains
      (name.map Char.toUpper) = false :=
    not_contains_of_not_isKeyword hname (by cases dialect <;> decide)
  simp only [Acceptor.run, List.foldlM_cons, List.foldlM_nil, bind_pure, Acceptor.step,
    Place.expectation_state, Acceptor.table?, Token.keyword?, hreserved, Bool.false_eq_true,
    if_false]
  rfl

/-- FROM and a table lead to the end of the table. -/
theorem leads_table (hname : IsName isKeyword symbols) :
    Leads dialect (.word "FROM".toList :: symbols) itemEnds tableEnds := by
  have hword : Leads dialect [.word "FROM".toList] itemEnds
      (· = Clause.tables.place.state .tableName) := by
    refine Leads.words ["FROM"] (by decide) ?_
    rintro state ((rfl | rfl) | rfl)
    all_goals exact ⟨_, rfl, by cases dialect <;> rfl⟩
  refine hword.cons ⟨isRead_of_isName hname, ?_⟩
  rintro state rfl
  refine ⟨_, rfl, ?_⟩
  cases hname with
  | plain hname hfree => exact run_table hfree
  | @qualified qualifier name hqualifier hqualifierFree hname hfree =>
    have htokens : [Symbol.word qualifier, .point, .word name].map Symbol.token =
        [.word qualifier] ++ [.sign ['.'], .word name] := rfl
    rw [htokens, Acceptor.run_append, run_table hqualifierFree]
    rfl

/-- A condition may stand behind the table. -/
theorem IsConditionClause.leads (hclause : IsConditionClause isKeyword dialect symbols) :
    Leads dialect symbols tableEnds conditionEnds := by
  cases hclause with
  | none => exact Leads.nil.mono (fun _ hstate ↦ hstate) fun _ ↦ .inl
  | some hexpression =>
    have hword : Leads dialect [.word "WHERE".toList] tableEnds Clause.condition.place.Open := by
      refine Leads.words ["WHERE"] (by decide) ?_
      rintro state rfl
      exact ⟨Clause.condition.place.state .operand, ⟨_, rfl, rfl⟩, by cases dialect <;> rfl⟩
    exact (hword.cons (hexpression.leads Clause.condition.place)).mono
      (fun _ hstate ↦ hstate) fun _ ↦ .inr

theorem IsOrderItem.leads (hitem : IsOrderItem isKeyword dialect symbols) :
    Leads dialect symbols Clause.ordering.place.Open orderItemEnds := by
  obtain ⟨direction, hexpression⟩ := hitem
  refine (hexpression.leads Clause.ordering.place).append
    ⟨List.forall_mem_singleton.mpr (Token.readAs_word dialect (by cases direction <;> decide)), ?_⟩
  rintro state (rfl | rfl)
  all_goals exact ⟨_, rfl, by cases dialect <;> cases direction <;> rfl⟩

/-- An ordering may stand behind the table or behind the condition. -/
theorem IsOrderingClause.leads (hclause : IsOrderingClause isKeyword dialect symbols) :
    Leads dialect symbols conditionEnds statementEnds := by
  cases hclause with
  | none => exact Leads.nil.mono (fun _ hstate ↦ hstate) fun _ ↦ .inl
  | some hne hitems =>
    have hwords : Leads dialect [.word "ORDER".toList, .word "BY".toList] conditionEnds
        Clause.ordering.place.Open := by
      refine Leads.words ["ORDER", "BY"] (by decide) ?_
      intro state hstate
      refine ⟨Clause.ordering.place.state .operand, ⟨_, rfl, rfl⟩, ?_⟩
      rcases hstate with rfl | rfl | rfl
      all_goals cases dialect <;> rfl
    refine (hwords.append (Leads.commaSeparated hne
      (fun item hmem ↦ (hitems item hmem).leads) ?_)).mono (fun _ hstate ↦ hstate) fun _ ↦ .inr
    rintro state rfl
    exact ⟨Clause.ordering.place.state .operand, ⟨_, rfl, rfl⟩, by cases dialect <;> rfl⟩

/-- A statement leads from the start to where a text may end. -/
theorem IsStatement.leads (hstatement : IsStatement isKeyword dialect symbols) :
    Leads dialect symbols (· = Acceptor.start) statementEnds := by
  obtain ⟨hne, hitems, htable, hcondition, hordering⟩ := hstatement
  exact (leads_projection hne hitems).append
    ((leads_table htable).append (hcondition.leads.append hordering.leads))

end

/-- The acceptor is a parser that reads statements. -/
theorem Parser.readsStatements_acceptor : Parser.acceptor.ReadsStatements where
  accepts_of_spells := by
    intro dialect symbols text hstatement hspells
    obtain ⟨hread, hrun⟩ := IsStatement.leads hstatement
    obtain ⟨next, hnext, heq⟩ := hrun Acceptor.start rfl
    change Sql.accepts dialect text = true
    rw [Sql.accepts, ofText?_of_spells hspells hread]
    simp only [heq, Option.map_some, Option.getD_some, mayEnd_of_statementEnds hnext]

end KeyPathQuery.Sql
