import KeyPathQuery.Proofs.Composer.Baseline
import KeyPathQuery.Proofs.Composer.LexicalSafety
import KeyPathQuery.Proofs.Composer.Operands
import KeyPathQuery.Proofs.KeyPath.DefaultAlias
import KeyPathQuery.Proofs.Sql.Acceptance
import KeyPathQuery.Proofs.Sql.ReadableStatement

/-!
Composed statements are SQL of their dialect. Whatever texts and values a caller gives, every
operation that succeeds adds a part that all stores read, plain columns are such parts as well, and
an operation that fails adds nothing. So after any use of a query every parser that reads
statements accepts its text, as long as the parser keeps no name in it for itself. Only the operator
of a comparison has to be one of the recognised ones.

Segments of key paths may hold signs, but they stand in literals, and no backslash is among them.
An empty list becomes a predicate of its own, and the name that a projection gets by itself starts
as its column does, so it is an identifier.

Main statement: `isAccepted_runSteps`.
-/

set_option autoImplicit false
set_option relaxedAutoImplicit false

namespace KeyPathQuery

open Sql Phrasing

/-! ### Expressions of key paths -/

namespace Sql.Expression

variable {depth : Nat}

theorem isReadable_rootColumn (path : KeyPath) : (rootColumn path).IsReadable depth := by
  cases isOperand_rootColumn path with
  | column htable hname => exact .column htable hname

theorem isReadable_textContains {target : Expression} (htarget : target.IsReadable depth)
    (search : Text) : (textContains target search).IsReadable depth :=
  .like _ (by decide) htarget

/-- Membership in a list is read for the empty list too. -/
theorem isReadable_memberOf {target : Expression} (htarget : target.IsReadable (depth + 1))
    (values : List Json) : (memberOf target values).IsReadable (depth + 1) := by
  unfold memberOf
  split_ifs with hempty
  · exact .never
  · refine .inList htarget ?_ (List.forall_mem_map.mpr fun value _ ↦ .bind value)
    simpa [List.isEmpty_iff] using hempty

end Sql.Expression

theorem KeyPath.isIdentifier_column (path : KeyPath) : isIdentifier path.column.2 = true := by
  cases Expression.isOperand_rootColumn path with
  | column _ hname => exact hname

/-- Segments hold no backslash. -/
theorem KeyPath.keepsBackslashes_segment (path : KeyPath) {segment : Text}
    (hsegment : segment ∈ path.segments) : Token.KeepsBackslashes segment :=
  .of_notMem (notMem_of_isSegmentName (path.segments_areNames segment hsegment) (by decide))

namespace Phrasing.FunctionCall

variable {depth : Nat}

theorem isReadable_pathLiteral (path : KeyPath) : (pathLiteral path).IsReadable depth := by
  refine .string (.of_notMem ?_)
  simp only [List.mem_cons, List.mem_flatMap, not_or, not_exists, not_and]
  refine ⟨by decide, fun segment hsegment ↦ ?_⟩
  have hnone : '\\' ∉ segment :=
    notMem_of_isSegmentName (path.segments_areNames segment hsegment) (by decide)
  unfold leg
  split_ifs
  · simp [hnone]
  · simp [hnone]

theorem isReadable_extracted (path : KeyPath) : (extracted path).IsReadable (depth + 1) := by
  refine .call (by decide) (List.cons_ne_nil _ _) ?_
  exact List.forall_mem_cons.mpr ⟨Expression.isReadable_rootColumn path,
    List.forall_mem_singleton.mpr (isReadable_pathLiteral path)⟩

/-- The test for a nested path has brackets of three levels. -/
theorem isReadable_present (path : KeyPath) : (present path).IsReadable (depth + 3) := by
  unfold present
  split_ifs with hnested
  · have hone : (Expression.string "one".toList).IsReadable (depth + 1) :=
      .string (.of_notMem (by decide))
    have hnull : (Expression.string "NULL".toList).IsReadable (depth + 2) :=
      .string (.of_notMem (by decide))
    have hcontains : (Expression.call "JSON_CONTAINS_PATH".toList
        [.rootColumn path, .string "one".toList, pathLiteral path]).IsReadable (depth + 2) := by
      refine .call (by decide) (List.cons_ne_nil _ _) ?_
      simp only [List.forall_mem_cons]
      exact ⟨Expression.isReadable_rootColumn path, hone, isReadable_pathLiteral path, by simp⟩
    have htype : (Expression.call "JSON_TYPE".toList [extracted path]).IsReadable (depth + 2) :=
      .call (by decide) (List.cons_ne_nil _ _)
        (List.forall_mem_singleton.mpr (isReadable_extracted path))
    exact .nested (.binary rfl hcontains (.binary rfl htype hnull))
  · exact .isNotNull (Expression.isReadable_rootColumn path)

end Phrasing.FunctionCall

theorem Phrasing.OperatorChain.isReadable_steps {depth : Nat} {target : Expression}
    (htarget : target.IsReadable depth) {segments : List Text}
    (hsegments : ∀ segment ∈ segments, Token.KeepsBackslashes segment) :
    (OperatorChain.steps target segments).IsReadable depth := by
  induction segments generalizing target with
  | nil => exact htarget
  | cons segment rest ih =>
    obtain ⟨hsegment, hrest⟩ := List.forall_mem_cons.mp hsegments
    cases rest with
    | nil => exact .jsonAccess true htarget hsegment
    | cons next others => exact ih (.jsonAccess false htarget hsegment) hrest

namespace Dialect.Extracts

variable {dialect : Dialect} {extraction : Extraction}

/-- What a SQL dialect finds at a path is read by all stores. -/
theorem isReadable_values (hextracts : dialect.Extracts extraction) (path : KeyPath) :
    (extraction.values path).IsReadable nesting := by
  have hroot : (Expression.rootColumn path).IsReadable nesting :=
    Expression.isReadable_rootColumn path
  cases hextracts with
  | sqlFunction =>
    exact .call (by decide) (List.cons_ne_nil _ _)
      (List.forall_mem_singleton.mpr (FunctionCall.isReadable_extracted path))
  | sqlOperator =>
    exact OperatorChain.isReadable_steps hroot fun _ ↦ path.keepsBackslashes_segment
  | generic => exact hroot

theorem isReadable_present (hextracts : dialect.Extracts extraction) (path : KeyPath) :
    (extraction.present path).IsReadable nesting := by
  have hvalues := hextracts.isReadable_values path
  cases hextracts with
  | sqlFunction => exact FunctionCall.isReadable_present path
  | sqlOperator => exact .isNotNull hvalues
  | generic => exact .isNotNull hvalues

theorem isReadable_compare (hextracts : dialect.Extracts extraction) {target : Expression}
    (htarget : target.IsReadable nesting) {comparison : Comparison}
    (hcomparison : (Phrasing.sqlOperator comparison).isNamed = true) (value : Json) :
    (extraction.compare target comparison value).IsReadable nesting := by
  cases hextracts with
  | sqlFunction => exact .binary hcomparison htarget (.bind value)
  | sqlOperator => exact .binary hcomparison htarget (.bind value)
  | generic => exact Expression.isReadable_textContains htarget _

/-- The name that a projection gets by itself is an identifier. -/
theorem isIdentifier_defaultName (hextracts : dialect.Extracts extraction) (path : KeyPath) :
    isIdentifier (extraction.defaultName path) = true := by
  cases hextracts with
  | sqlFunction => exact path.isIdentifier_defaultAlias
  | sqlOperator => exact path.isIdentifier_defaultAlias
  | generic => exact path.isIdentifier_column

end Dialect.Extracts

/-! ### Readable fragments -/

/-- A fragment of parts that all stores read. -/
def Fragment.IsReadable : Fragment → Prop
  | .filter predicate => predicate.IsReadable nesting
  | .order item => item.IsReadable
  | .projection item => item.IsReadable
  | _ => True

/-- A SQL dialect phrases plain requests as fragments that all stores read. -/
theorem Dialect.Extracts.isReadable_phrase {dialect : Dialect} {extraction : Extraction}
    (hextracts : dialect.Extracts extraction) (path : KeyPath) {request : Request}
    (hrequest : request.IsPlain) : (extraction.phrase path request).IsReadable := by
  have hvalues := hextracts.isReadable_values path
  cases request with
  | compare comparison value => exact hextracts.isReadable_compare hvalues hrequest value
  | memberOf list => exact Expression.isReadable_memberOf hvalues list
  | contains search => exact Expression.isReadable_textContains hvalues search
  | present => exact hextracts.isReadable_present path
  | orderBy direction => exact ⟨hvalues, rfl⟩
  | select resultName =>
    refine ⟨hvalues, ?_⟩
    intro name hname
    obtain rfl := Option.some.inj hname
    cases resultName with
    | none => exact hextracts.isIdentifier_defaultName path
    | some name => exact hrequest name rfl

/-! ### Readable statements -/

namespace Sql.Select

variable {select : Select}

theorem IsReadable.prepared (hselect : select.IsReadable) : select.prepared.IsReadable := by
  unfold Select.prepared
  split_ifs
  · exact { hselect with projections := List.forall_mem_singleton.mpr trivial }
  · exact hselect

theorem IsReadable.andWhere (hselect : select.IsReadable) {predicate : Expression}
    (hpredicate : predicate.IsReadable nesting) : (select.andWhere predicate).IsReadable := by
  unfold Select.andWhere
  cases hcondition : select.condition with
  | none => exact { hselect with condition := by simpa using hpredicate }
  | some existing =>
    have hexisting := hselect.condition existing hcondition
    exact { hselect with condition := by simpa using .binary rfl hexisting hpredicate }

theorem IsReadable.addItems (hselect : select.IsReadable) {items : List SelectItem}
    (hitems : ∀ item ∈ items, item.IsReadable) :
    IsReadable { select with projections := select.projections ++ items } :=
  { hselect with projections := List.forall_mem_append.mpr ⟨hselect.projections, hitems⟩ }

/-- A readable fragment keeps a statement readable. -/
theorem IsReadable.extend (hselect : select.IsReadable) {fragment : Fragment}
    (hfragment : fragment.IsReadable) : (select.extend fragment).IsReadable := by
  have hprepared := hselect.prepared
  cases fragment with
  | filter predicate => exact hprepared.andWhere hfragment
  | order item =>
    exact { hprepared with
      ordering := List.forall_mem_append.mpr
        ⟨hprepared.ordering, List.forall_mem_singleton.mpr hfragment⟩ }
  | projection item => exact hprepared.addItems (List.forall_mem_singleton.mpr hfragment)
  | documentFilter | documentSort | documentProjection => exact hselect

end Sql.Select

theorem Sql.SelectItem.isReadable_ofColumnName {name : Text} (hname : isColumnName name = true) :
    (SelectItem.ofColumnName name).IsReadable := by
  unfold isColumnName at hname
  unfold ofColumnName
  cases hcut : name.cut ['.'] with
  | none =>
    rw [hcut] at hname
    exact ⟨.column (by simp) hname, by simp⟩
  | some parts =>
    rw [hcut] at hname
    obtain ⟨htable, hcolumn⟩ := Bool.and_eq_true_iff.mp hname
    exact ⟨.column (by simpa using htable) hcolumn, by simp⟩

theorem SqlQuery.isReadable_ofTable (connection : Connection) (dialect : Dialect) {table : Text}
    (htable : isColumnName table = true) :
    (ofTable connection dialect table).statement.IsReadable where
  projections := by simp [ofTable]
  tables := ⟨_, rfl, Table.isPlain_ofText htable⟩
  condition := by simp [ofTable]
  ordering := by simp [ofTable]

/-! ### Steps and runs -/

namespace SqlQuery.Step

/-- A step whose operation has a recognised operator and whose plain columns are column names. -/
def IsSpelled : Step → Prop
  | .operate operation => operation.HasSpelledOperator
  | .ensureSelectAll => True
  | .selectColumns columns => ∀ column ∈ columns, isColumnName column = true

variable {composer : Composer} {query : SqlQuery} {step : Step}

theorem dialect_run (composer : Composer) (query : SqlQuery) (step : Step) :
    (step.run composer query).query.dialect = query.dialect := by
  cases step with
  | selectColumns columns => rfl
  | ensureSelectAll => exact (Prod.mk.inj (QueryTarget.setting_ensureSelectAll query)).2
  | operate operation =>
    rw [run, Composer.run_eq]
    cases composer.fragmentFor query operation with
    | error failure => rfl
    | ok fragment => exact (Prod.mk.inj (QueryTarget.setting_extend query fragment)).2

/-- A step keeps the statement readable. -/
theorem isReadable_run (hquery : query.statement.IsReadable) (hstep : step.IsSpelled) :
    (step.run composer query).query.statement.IsReadable := by
  cases step with
  | selectColumns columns =>
    exact hquery.addItems (List.forall_mem_map.mpr fun column hcolumn ↦
      SelectItem.isReadable_ofColumnName (hstep column hcolumn))
  | ensureSelectAll =>
    rw [run, SqlQuery.ensureSelectAll_eq]
    exact hquery.prepared
  | operate operation =>
    rw [run, Composer.run_eq]
    cases hfragment : composer.fragmentFor query operation with
    | error failure => exact hquery
    | ok fragment =>
      obtain ⟨extraction, path, request, hextracts, hread, rfl⟩ :=
        Composer.fragmentFor_sqlQuery_eq_ok_iff.mp hfragment
      have hrequest := Operation.HasSpelledOperator.isPlain hstep
        (Operation.spells_of_read_eq_ok hread)
      simp only [SqlQuery.extend_eq]
      exact hquery.extend (hextracts.isReadable_phrase path hrequest)

end SqlQuery.Step

namespace Composer

theorem dialect_runSteps (composer : Composer) (query : SqlQuery) (steps : List SqlQuery.Step) :
    (composer.runSteps query steps).1.dialect = query.dialect :=
  runSteps_induction (·.dialect = query.dialect) (fun step _ before hbefore ↦
    (step.dialect_run composer before).trans hbefore) rfl

theorem isReadable_runSteps (composer : Composer) {query : SqlQuery}
    (hquery : query.statement.IsReadable) {steps : List SqlQuery.Step}
    (hsteps : ∀ step ∈ steps, step.IsSpelled) :
    (composer.runSteps query steps).1.statement.IsReadable :=
  runSteps_induction (·.statement.IsReadable) (fun step hmem _ hbefore ↦
    SqlQuery.Step.isReadable_run hbefore (hsteps step hmem)) hquery

/-- Parsers that read statements accept the text of a query of a composer, after any use of it, as
SQL of the dialect of its connection, as long as no name in the statement is a keyword of theirs. -/
theorem isAccepted_runSteps {parser : Parser} (hparser : parser.ReadsStatements)
    (composer : Composer) (connection : Connection) {table : Text}
    (htable : isColumnName table = true) {steps : List SqlQuery.Step}
    (hsteps : ∀ step ∈ steps, step.IsSpelled) :
    let query := (composer.runSteps (composer.sqlQuery connection table) steps).1
    (∀ name ∈ query.statement.names, parser.isKeyword name = false) →
      query.dialect = (composer.adapterFor connection).dialect ∧
        query.isAccepted parser = true := by
  intro query hnames
  have hreadable : query.statement.IsReadable :=
    composer.isReadable_runSteps (SqlQuery.isReadable_ofTable connection _ htable) hsteps
  refine ⟨composer.dialect_runSteps _ steps, ?_⟩
  exact hreadable.accepts hparser hnames fun value _ ↦
    Expression.writesValue_placeholder query.dialect value

/-- Plain columns, an empty list, segments with signs, and an operation that fails. -/
theorem isAccepted_runSteps_of_empty_list :
    let table := "app.users".toList
    let steps : List SqlQuery.Step :=
      [.selectColumns ["id".toList, "users.name".toList],
        .operate (.whereIn "meta->tags".toList []),
        .operate (.filter "users.meta->a--b->$1".toList ">=".toList (.string "';".toList)),
        .operate (.orderBy "meta".toList "sideways".toList),
        .operate (.select "meta->0-0".toList)]
    let query := (standard.runSteps (standard.sqlQuery (.ofDriver "pgsql".toList) table) steps).1
    Parser.acceptor.ReadsStatements ∧ isColumnName table = true ∧
      (∀ step ∈ steps, step.IsSpelled) ∧
      (∀ name ∈ query.statement.names, Parser.acceptor.isKeyword name = false) ∧
      query.isAccepted Parser.acceptor = true := by
  intro table steps query
  have htable : isColumnName table = true :=
    (by decide : isColumnName "app.users".toList = true)
  have hoperator : Text.trim ">=".toList ∈ Comparison.spellings := by decide
  have hcolumns : ∀ column ∈ ["id".toList, "users.name".toList], isColumnName column = true := by
    decide
  have hsteps : ∀ step ∈ steps, step.IsSpelled := by
    refine List.forall_mem_cons.mpr ⟨hcolumns, List.forall_mem_cons.mpr ⟨trivial, ?_⟩⟩
    refine List.forall_mem_cons.mpr ⟨hoperator, List.forall_mem_cons.mpr ⟨trivial, ?_⟩⟩
    exact List.forall_mem_singleton.mpr trivial
  have hnames : query.statement.names =
      ["id".toList, "users".toList, "name".toList, "meta".toList, "meta_0_0".toList,
        "app".toList, "users".toList, "users".toList, "meta".toList] := by
    unfold query steps table
    rfl
  have hkeywords : ∀ name ∈ query.statement.names, Parser.acceptor.isKeyword name = false := by
    rw [hnames]
    decide
  obtain ⟨-, haccepted⟩ := isAccepted_runSteps Parser.readsStatements_acceptor standard
    (.ofDriver "pgsql".toList) htable hsteps hkeywords
  exact ⟨Parser.readsStatements_acceptor, htable, hsteps, hkeywords, haccepted⟩

end Composer

end KeyPathQuery
