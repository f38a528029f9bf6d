import KeyPathQuery.Proofs.Composer.Acceptance
import KeyPathQuery.Proofs.Sql.EscapedLexeme
import KeyPathQuery.Proofs.Sql.InlineValues

/-!
Statements for display as MySQL reads them. A string is written with its quotes doubled and its
backslashes as they are, in every dialect. MySQL takes a backslash in a literal for the start of a
pair, so such a statement is the one that was meant if and only if the backslashes in its values
are of the kind that stays. A single backslash as a value leaves the literal open, and then the
text is no SQL at all.

The literals that are in the statement without its values hold no such backslash, so all depends on
the values.

Main statement: `readEscaping_inlineSql_runSteps_iff`.
-/

set_option autoImplicit false
set_option relaxedAutoImplicit false

namespace KeyPathQuery

open Sql
open Sql.Token (KeepsBackslashes)

/-! ### The literals of templates -/

namespace Sql.Template

variable {template : Template} {place : Nat} {content : Text}

theorem literal_notMem_ofCode (chars : Text) : .literal content ∉ Lexeme.ofCode chars := by
  simp [Lexeme.ofCode]

/-- Where values are placeholders, the literals in a text are those of its template. -/
theorem literal_mem_lexemes_questionMark :
    .literal content ∈ template.lexemes .questionMark place ↔ .literal content ∈ template := by
  induction template generalizing place with
  | nil => simp [lexemes]
  | cons piece rest ih =>
    cases piece with
    | code chars => simp [lexemes, ih, literal_notMem_ofCode]
    | literal other => simp [lexemes, ih]
    | slot value => simp [lexemes, ih, PlaceholderStyle.slotLexemes]

/-- Where values are literals, they come to those of the template. -/
theorem literal_mem_lexemes_inline :
    .literal content ∈ template.lexemes .inline place ↔
      .literal content ∈ template ∨
        ∃ value ∈ template.slots, .literal content ∈ valueLexemes value := by
  induction template generalizing place with
  | nil => simp [lexemes]
  | cons piece rest ih =>
    cases piece with
    | code chars => simp [lexemes, ih, literal_notMem_ofCode]
    | literal other => simp [lexemes, ih, or_assoc]
    | slot value =>
      simp only [lexemes, List.mem_append, ih, PlaceholderStyle.slotLexemes, List.mem_cons,
        slots_slot, exists_eq_or_imp, reduceCtorEq, false_or]
      exact or_left_comm

end Sql.Template

/-! ### Statements with string values -/

namespace Sql.Select

variable {select : Select}

/-- Without its values a statement is read by MySQL as its template says, and so it is with them if
and only if their backslashes stay. -/
theorem IsReadable.readEscaping (hselect : select.IsReadable)
    (hstrings : ∀ value ∈ select.values, ∃ content, value = .string content) :
    let compiled := select.compile .questionMark
    ∃ lexemes, Lexeme.readEscaping compiled.sql = some lexemes ∧
      (Lexeme.readEscaping (select.compile .inline).sql =
          some (Lexeme.putValues compiled.bindings lexemes) ↔
        ∀ content, .string content ∈ compiled.bindings → KeepsBackslashes content) := by
  intro compiled
  have horderly := hselect.isPlain.sound.orderly
  have hliterals : ∀ content, .literal content ∈ select.template → KeepsBackslashes content :=
    (hselect.writes (fun _ _ ↦ rfl : ∀ name ∈ select.names, (fun _ ↦ false) name = false)
      fun value _ ↦ Expression.writesValue_placeholder .sqlFunction value).literals
  have hbindings : compiled.bindings = select.template.slots := by
    simp only [compiled]
    rw [compile, written_eq]
    rfl
  have hread (style : PlaceholderStyle) :
      Lexeme.readEscaping (select.compile style).sql = some (select.template.lexemes style 1) ↔
        ∀ content, .literal content ∈ select.template.lexemes style 1 →
          KeepsBackslashes content := by
    rw [← Lexeme.readEscaping_textOf_iff (horderly.readable style 1), Template.textOf_lexemes,
      compile, written_eq]
    rfl
  refine ⟨select.template.lexemes .questionMark 1, ?_, ?_⟩
  · exact (hread .questionMark).mpr fun content hmem ↦
      hliterals content (Template.literal_mem_lexemes_questionMark.mp hmem)
  · rw [hbindings, horderly.putValues_lexemes (by decide) 1 1, hread .inline, select.slots_template]
    constructor
    · intro hkeeps content hmem
      refine hkeeps content (Template.literal_mem_lexemes_inline.mpr (.inr ⟨.string content, ?_⟩))
      exact ⟨select.slots_template ▸ hmem, List.mem_cons_self⟩
    · intro hkeeps content hmem
      rcases Template.literal_mem_lexemes_inline.mp hmem with hown | ⟨value, hvalue, hmem⟩
      · exact hliterals content hown
      · rw [select.slots_template] at hvalue
        obtain ⟨other, rfl⟩ := hstrings value hvalue
        obtain rfl := Lexeme.literal.inj (List.mem_singleton.mp hmem)
        exact hkeeps content hvalue

/-- With values whose backslashes stay, a statement is SQL of its dialect. -/
theorem IsReadable.accepts_inline {parser : Parser} (hparser : parser.ReadsStatements)
    (hselect : select.IsReadable) (dialect : Dialect)
    (hnames : ∀ name ∈ select.names, parser.isKeyword name = false)
    (hvalues : ∀ value ∈ select.values,
      ∃ content, value = .string content ∧ KeepsBackslashes content) :
    parser.accepts dialect (select.compile .inline).sql = true := by
  refine hselect.accepts hparser hnames fun value hvalue number ↦ ?_
  obtain ⟨content, rfl, hcontent⟩ := hvalues value hvalue
  exact ⟨.string content, .string hcontent, spellsBefore_quote content⟩

end Sql.Select

/-! ### The text after a run -/

namespace Composer

/-- The statement of a query for MySQL after any use of it, as MySQL reads it. With placeholders it
is SQL. With its values inline it is read as the same statement with the values put in place of the
placeholders, each of them one literal, if and only if every backslash in a value stays, and then
it is SQL too. -/
theorem readEscaping_inlineSql_runSteps_iff {parser : Parser} (hparser : parser.ReadsStatements)
    (composer : Composer) (connection : Connection) {table : Text}
    (htable : isColumnName table = true) {steps : List SqlQuery.Step}
    (hsteps : ∀ step ∈ steps, step.IsSpelled) :
    let query := (composer.runSteps (composer.sqlQuery connection table) steps).1
    query.dialect = .sqlFunction →
    (∀ name ∈ query.statement.names, parser.isKeyword name = false) →
    (∀ value ∈ query.compile.bindings, ∃ content, value = .string content) →
    let keeps := ∀ content, .string content ∈ query.compile.bindings → KeepsBackslashes content
    query.isAccepted parser = true ∧
    (keeps → parser.accepts query.dialect query.inlineSql = true) ∧
    ∃ lexemes, Lexeme.readEscaping query.compile.sql = some lexemes ∧
      (Lexeme.readEscaping query.inlineSql =
        some (Lexeme.putValues query.compile.bindings lexemes) ↔ keeps) := by
  intro query hdialect hnames hstrings keeps
  have hreadable : query.statement.IsReadable :=
    composer.isReadable_runSteps (SqlQuery.isReadable_ofTable connection _ htable) hsteps
  have hcompile : query.compile = query.statement.compile .questionMark := by
    rw [SqlQuery.compile, hdialect]
    rfl
  have hbindings : query.compile.bindings = query.statement.values := by
    rw [hcompile, Select.compile, Select.written_eq, ← Select.slots_template]
    rfl
  refine ⟨?_, fun hkeeps ↦ ?_, ?_⟩
  · exact hreadable.accepts hparser hnames fun value _ ↦
      Expression.writesValue_placeholder query.dialect value
  · refine hreadable.accepts_inline hparser query.dialect hnames fun value hvalue ↦ ?_
    rw [← hbindings] at hvalue
    obtain ⟨content, rfl⟩ := hstrings value hvalue
    exact ⟨content, rfl, hkeeps content hvalue⟩
  · rw [hbindings] at hstrings
    have hread := hreadable.readEscaping hstrings
    rw [← hcompile] at hread
    exact hread

/-- Backslashes before the wildcards of patterns stay. -/
theorem readEscaping_inlineSql_runSteps_of_wildcards :
    let table := "users".toList
    let steps : List SqlQuery.Step :=
      [.operate (.filter "meta->a".toList "=".toList (.string "100\\% '".toList)),
        .operate (.contains "meta->b".toList "it's".toList)]
    let query := (standard.runSteps (standard.sqlQuery (.ofDriver "mysql".toList) table) steps).1
    Parser.acceptor.ReadsStatements ∧ isColumnName table = true ∧
      (∀ step ∈ steps, step.IsSpelled) ∧ query.dialect = .sqlFunction ∧
      (∀ name ∈ query.statement.names, Parser.acceptor.isKeyword name = false) ∧
      query.compile.bindings = [.string "100\\% '".toList, .string "%it's%".toList] ∧
      Parser.acceptor.accepts .sqlFunction query.inlineSql = true := by
  intro table steps query
  have htable : isColumnName table = true := (by decide : isColumnName "users".toList = true)
  have hoperator : Text.trim "=".toList ∈ Comparison.spellings := by decide
  have hsteps : ∀ step ∈ steps, step.IsSpelled :=
    List.forall_mem_cons.mpr ⟨hoperator, List.forall_mem_singleton.mpr trivial⟩
  have hdialect : query.dialect = .sqlFunction := by
    unfold query steps table
    rfl
  have hnames : query.statement.names = ["users".toList, "meta".toList, "meta".toList] := by
    unfold query steps table
    rfl
  have hkeywords : ∀ name ∈ query.statement.names, Parser.acceptor.isKeyword name = false := by
    rw [hnames]
    decide
  have hbindings : query.compile.bindings =
      [.string "100\\% '".toList, .string "%it's%".toList] := by
    unfold query steps table
    rfl
  have hstrings : ∀ value ∈ query.compile.bindings, ∃ content, value = .string content := by
    simp [hbindings]
  have hkeeps : ∀ content, .string content ∈ query.compile.bindings → KeepsBackslashes content := by
    intro content hmem
    rw [hbindings] at hmem
    rcases List.mem_cons.mp hmem with hfirst | hsecond
    · obtain rfl := Json.string.inj hfirst
      have hend : KeepsBackslashes " '".toList := .of_notMem (by decide)
      exact KeepsBackslashes.other (by decide) (.other (by decide) (.other (by decide)
        (.wildcard (.inl rfl) hend)))
    · obtain rfl := Json.string.inj (List.mem_singleton.mp hsecond)
      exact .of_notMem (by decide)
  obtain ⟨-, haccepts, -⟩ := readEscaping_inlineSql_runSteps_iff Parser.readsStatements_acceptor
    standard (.ofDriver "mysql".toList) htable hsteps hdialect hkeywords hstrings
  rw [hdialect] at haccepts
  exact ⟨Parser.readsStatements_acceptor, htable, hsteps, hdialect, hkeywords, hbindings,
    haccepts hkeeps⟩

/-- A value that is one backslash leaves its literal open: it is not the case that a statement for
MySQL is SQL with its string values inline and is read with these values. -/
theorem not_forall_accepts_inlineSql :
    ¬ ∀ (parser : Parser) (composer : Composer) (connection : Connection) (table : Text)
      (steps : List SqlQuery.Step), parser.ReadsStatements → isColumnName table = true →
      (∀ step ∈ steps, step.IsSpelled) →
      let query := (composer.runSteps (composer.sqlQuery connection table) steps).1
      query.dialect = .sqlFunction →
      (∀ name ∈ query.statement.names, parser.isKeyword name = false) →
      (∀ value ∈ query.compile.bindings, ∃ content, value = .string content) →
      query.isAccepted parser = true →
      parser.accepts .sqlFunction query.inlineSql = true ∧
      ∃ lexemes, Lexeme.readEscaping query.compile.sql = some lexemes ∧
        Lexeme.readEscaping query.inlineSql =
          some (Lexeme.putValues query.compile.bindings lexemes) := by
  intro hall
  let steps : List SqlQuery.Step :=
    [.operate (.filter "meta->a".toList "=".toList (.string "\\".toList))]
  let query :=
    (standard.runSteps (standard.sqlQuery (.ofDriver "mysql".toList) "users".toList) steps).1
  have hoperator : Text.trim "=".toList ∈ Comparison.spellings := by decide
  have hsteps : ∀ step ∈ steps, step.IsSpelled := List.forall_mem_singleton.mpr hoperator
  have hdialect : query.dialect = .sqlFunction := by
    unfold query steps
    rfl
  have hnames : query.statement.names = ["users".toList, "meta".toList] := by
    unfold query steps
    rfl
  have hkeywords : ∀ name ∈ query.statement.names, Parser.acceptor.isKeyword name = false := by
    rw [hnames]
    decide
  have hbindings : query.compile.bindings = [.string "\\".toList] := by
    unfold query steps
    rfl
  have hstrings : ∀ value ∈ query.compile.bindings, ∃ content, value = .string content := by
    simp [hbindings]
  have haccepted : query.isAccepted Parser.acceptor = true := by
    have hcompile : query.compile.sql =
        "SELECT * FROM users WHERE JSON_UNQUOTE(JSON_EXTRACT(meta, '$.a')) = ?".toList := by
      unfold query steps
      rfl
    rw [SqlQuery.isAccepted, hdialect, hcompile]
    decide +kernel
  have hinline : query.inlineSql =
      "SELECT * FROM users WHERE JSON_UNQUOTE(JSON_EXTRACT(meta, '$.a')) = '\\'".toList := by
    unfold query steps
    rfl
  have hopen : Parser.acceptor.accepts .sqlFunction query.inlineSql = false := by
    rw [hinline]
    decide +kernel
  have haccepts := (hall .acceptor standard (.ofDriver "mysql".toList) "users".toList steps
    Parser.readsStatements_acceptor (by decide) hsteps hdialect hkeywords hstrings haccepted).1
  exact Bool.false_ne_true (hopen.symm.trans haccepts)

end Composer

end KeyPathQuery
