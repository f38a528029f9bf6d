import KeyPathQuery.Proofs.Composer.Step

/-!
What operations do to a SQL query. It takes the parts of statements: a fragment is added behind a
projection of every column if nothing was projected before (`Select.extend`). Where the fragments
come from is said by `fragmentFor_sqlQuery_eq_ok_iff`, so a property of all runs needs a look at
the phrasing of the three SQL dialects and at `Select.extend`, and at nothing else.
-/

set_option autoImplicit false
set_option relaxedAutoImplicit false

namespace KeyPathQuery

open Phrasing

/-! ### The phrasing of the SQL dialects -/

/-- The dialects of SQL with their extractions. -/
inductive Dialect.Extracts : Dialect → Extraction → Prop
  | sqlFunction : Extracts .sqlFunction FunctionCall.extraction
  | sqlOperator : Extracts .sqlOperator OperatorChain.extraction
  | generic : Extracts .generic RootColumn.extraction

theorem Dialect.Extracts.phrase_eq {dialect : Dialect} {extraction : Extraction}
    (hextracts : dialect.Extracts extraction) (path : KeyPath) (request : Request) :
    dialect.phrase path request = .ok (extraction.phrase path request) := by
  cases hextracts <;> rfl

theorem Dialect.exists_extracts {dialect : Dialect} (hsql : (dialect != .document) = true) :
    ∃ extraction, dialect.Extracts extraction := by
  cases dialect with
  | document => cases hsql
  | sqlFunction => exact ⟨_, .sqlFunction⟩
  | sqlOperator => exact ⟨_, .sqlOperator⟩
  | generic => exact ⟨_, .generic⟩

/-! ### The addition to a statement -/

/-- The statement with every column projected, unless it projects something already. -/
def Sql.Select.prepared (select : Sql.Select) : Sql.Select :=
  if select.projections.isEmpty then { select with projections := [.wildcard] } else select

/-- The statement with a fragment added behind the projection. -/
def Sql.Select.extend (select : Sql.Select) : Fragment → Sql.Select
  | .filter predicate => select.prepared.andWhere predicate
  | .order item => { select.prepared with ordering := select.prepared.ordering ++ [item] }
  | .projection item =>
    { select.prepared with projections := select.prepared.projections ++ [item] }
  | _ => select

/-- The query with a fragment added to its statement. -/
def SqlQuery.extend (query : SqlQuery) (fragment : Fragment) : SqlQuery :=
  { query with statement := query.statement.extend fragment }

theorem SqlQuery.ensureSelectAll_eq (query : SqlQuery) :
    QueryTarget.ensureSelectAll query = { query with statement := query.statement.prepared } := by
  unfold QueryTarget.ensureSelectAll Sql.Select.prepared
  change (if query.statement.projections.isEmpty = true then query.selectAll else query) = _
  by_cases hempty : query.statement.projections.isEmpty = true
  · rw [if_pos hempty, if_pos hempty]
    rfl
  · rw [if_neg hempty, if_neg hempty]

instance : LawfulTarget SqlQuery where
  takesSql := true
  isSome_add? _ fragment := by cases fragment <;> rfl
  ensureSelectAll_of_documents hdocuments := by cases hdocuments
  setting_selectAll _ := rfl
  setting_add? {_ _ fragment} hadd := by
    cases fragment with
    | filter | order | projection =>
      obtain rfl := Option.some.inj hadd
      rfl
    | documentFilter | documentSort | documentProjection => cases hadd

theorem SqlQuery.extend_eq (query : SqlQuery) (fragment : Fragment) :
    QueryTarget.extend query fragment = query.extend fragment := by
  unfold QueryTarget.extend
  cases fragment with
  | filter | order | projection =>
    simp only [Fragment.isSql, if_true, ensureSelectAll_eq]
    rfl
  | documentFilter | documentSort | documentProjection => rfl

/-- What every fragment keeps of a statement, all of them keep. -/
theorem SqlQuery.foldl_extend_induction {property : Sql.Select → Prop} {fragments : List Fragment}
    (hstep : ∀ fragment ∈ fragments, ∀ select, property select → property (select.extend fragment))
    {query : SqlQuery} (hquery : property query.statement) :
    property (fragments.foldl extend query).statement := by
  induction fragments generalizing query with
  | nil => exact hquery
  | cons fragment rest ih =>
    obtain ⟨hfirst, hrest⟩ := List.forall_mem_cons.mp hstep
    exact ih hrest (hfirst query.statement hquery)

theorem SqlQuery.connection_foldl_extend (fragments : List Fragment) (query : SqlQuery) :
    (fragments.foldl extend query).connection = query.connection := by
  induction fragments generalizing query with
  | nil => rfl
  | cons fragment rest ih => rw [List.foldl_cons, ih]; rfl

theorem SqlQuery.dialect_foldl_extend (fragments : List Fragment) (query : SqlQuery) :
    (fragments.foldl extend query).dialect = query.dialect := by
  induction fragments generalizing query with
  | nil => rfl
  | cons fragment rest ih => rw [List.foldl_cons, ih]; rfl

/-! ### Steps and runs -/

namespace Composer

/-- The fragments that are added come from reading the operation and from the phrasing of a SQL
dialect. -/
theorem fragmentFor_sqlQuery_eq_ok_iff {composer : Composer} {query : SqlQuery}
    {operation : Operation} {fragment : Fragment} :
    composer.fragmentFor query operation = .ok fragment ↔
      ∃ extraction path request,
        (composer.adapterFor query.connection).dialect.Extracts extraction ∧
        operation.read composer.policy = .ok (path, request) ∧
        extraction.phrase path request = fragment := by
  rw [fragmentFor_eq_ok_iff, phrase_eq_ok_iff]
  constructor
  · rintro ⟨⟨path, request, hread, hdialect⟩, hsql⟩
    have hsql : fragment.isSql = true := hsql
    rw [Dialect.isSql_phrase hdialect] at hsql
    obtain ⟨extraction, hextracts⟩ := Dialect.exists_extracts hsql
    rw [hextracts.phrase_eq] at hdialect
    exact ⟨extraction, path, request, hextracts, hread, Except.ok.inj hdialect⟩
  · rintro ⟨extraction, path, request, hextracts, hread, rfl⟩
    exact ⟨⟨path, request, hread, hextracts.phrase_eq path request⟩, extraction.isSql_phrase _ _⟩

/-- A run adds the fragments of the operations that succeed, and the answers are the failures of
the others, each on its own. -/
theorem runAll_sqlQuery (composer : Composer) (query : SqlQuery) (operations : List Operation) :
    composer.runAll query operations =
      ((composer.fragmentsFor query operations).foldl SqlQuery.extend query,
        operations.map (composer.failure? query)) := by
  have hextend : (QueryTarget.extend : SqlQuery → Fragment → SqlQuery) = SqlQuery.extend :=
    funext fun _ ↦ funext fun _ ↦ SqlQuery.extend_eq _ _
  rw [runAll_eq, hextend]

theorem connection_runAll_sqlQuery (composer : Composer) (query : SqlQuery)
    (operations : List Operation) :
    (composer.runAll query operations).1.connection = query.connection := by
  rw [runAll_sqlQuery, SqlQuery.connection_foldl_extend]

/-- What the fragments of its operations keep of a statement, a run keeps. -/
theorem runAll_induction {property : Sql.Select → Prop} {composer : Composer} {query : SqlQuery}
    {operations : List Operation}
    (hstep : ∀ fragment ∈ composer.fragmentsFor query operations, ∀ select,
      property select → property (select.extend fragment))
    (hquery : property query.statement) :
    property (composer.runAll query operations).1.statement := by
  rw [runAll_sqlQuery]
  exact SqlQuery.foldl_extend_induction hstep hquery

end Composer

end KeyPathQuery
