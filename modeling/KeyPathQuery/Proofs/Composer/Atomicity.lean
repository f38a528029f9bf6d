import KeyPathQuery.Proofs.Composer.DocumentStep
import KeyPathQuery.Proofs.Composer.SqlStep

/-!
Operations that fail leave no trace in SQL queries and in document queries. The projection of
every column comes before the fragment may be refused, so this is no matter of the order of the
steps: a SQL query refuses only fragments that ask for no projection, and a document query takes
no notice of one (`merge_of_foreign`).

As an answer depends on no operation before it, a run whose failures are passed over leaves what
the operations that succeed leave by themselves.

Main statement: `failsWithoutTrace_sqlQuery_and_documentQuery`.
-/

set_option autoImplicit false
set_option relaxedAutoImplicit false

namespace KeyPathQuery.Composer

/-- The operations that succeeded, by the answers to all of them. -/
def succeeding (operations : List Operation) (answers : List (Option FilterError)) :
    List Operation :=
  ((operations.zip answers).filter (·.2.isNone)).map (·.1)

/-- Failures leave the queries of a type as they were: an operation that fails leaves its query,
and a run leaves what the operations that succeeded in it leave by themselves, none of which fails
then. -/
structure FailsWithoutTrace (composer : Composer) (τ : Type) [QueryTarget τ] : Prop where
  run (operation : Operation) (query : τ) (failure : FilterError)
    (hfailure : (composer.run operation query).failure = some failure) :
    (composer.run operation query).query = query
  runAll (operations : List Operation) (query : τ) :
    composer.runAll query (succeeding operations (composer.runAll query operations).2) =
      ((composer.runAll query operations).1,
        (succeeding operations (composer.runAll query operations).2).map fun _ ↦ none)

theorem succeeding_map (answer : Operation → Option FilterError) (operations : List Operation) :
    succeeding operations (operations.map answer) =
      operations.filter fun operation ↦ (answer operation).isNone := by
  unfold succeeding
  induction operations with
  | nil => rfl
  | cons operation rest ih =>
    rw [List.map_cons, List.zip_cons_cons]
    cases hanswer : answer operation with
    | none => simp [hanswer, ih]
    | some failure => simp [hanswer, ih]

variable {τ : Type} [QueryTarget τ] [LawfulTarget τ]

theorem query_run_of_failure {composer : Composer} {operation : Operation} {query : τ}
    {failure : FilterError} (hfailure : (composer.run operation query).failure = some failure) :
    (composer.run operation query).query = query := by
  rw [run_eq] at hfailure ⊢
  cases hfragment : composer.fragmentFor query operation with
  | error refusal => rfl
  | ok fragment =>
    rw [hfragment] at hfailure
    cases hfailure

/-- The fragments of a run are those of the operations that succeed in it. -/
theorem fragmentsFor_filter_isNone (composer : Composer) (query : τ)
    (operations : List Operation) :
    composer.fragmentsFor query
        (operations.filter fun operation ↦ (composer.failure? query operation).isNone) =
      composer.fragmentsFor query operations := by
  induction operations with
  | nil => rfl
  | cons operation rest ih =>
    cases hfragment : composer.fragmentFor query operation with
    | error failure =>
      rw [List.filter_cons_of_neg (by simp [failure?_of_error hfragment]), ih,
        fragmentsFor_cons_of_error hfragment]
    | ok fragment =>
      rw [List.filter_cons_of_pos (by simp [failure?_of_ok hfragment]),
        fragmentsFor_cons_of_ok hfragment, ih, fragmentsFor_cons_of_ok hfragment]

theorem failsWithoutTrace_of_lawfulTarget (composer : Composer) : composer.FailsWithoutTrace τ where
  run _ _ _ hfailure := query_run_of_failure hfailure
  runAll operations query := by
    have hanswers : ∀ operation ∈
        operations.filter (fun operation ↦ (composer.failure? query operation).isNone),
        composer.failure? query operation = none := by
      intro operation hmem
      exact Option.isNone_iff_eq_none.mp (List.mem_filter.mp hmem).2
    simp only [runAll_eq, succeeding_map, fragmentsFor_filter_isNone,
      List.map_congr_left hanswers]

/-- Operations that fail leave no trace in SQL queries and in document queries, whatever the
adapter of the connection and the dialect of the query. -/
theorem failsWithoutTrace_sqlQuery_and_documentQuery (composer : Composer) :
    composer.FailsWithoutTrace SqlQuery ∧ composer.FailsWithoutTrace DocumentQuery :=
  ⟨composer.failsWithoutTrace_of_lawfulTarget, composer.failsWithoutTrace_of_lawfulTarget⟩

/-- Routes take a SQL query to documents and a document query to SQL; both refuse the operation
and stay as they are. -/
theorem failsWithoutTrace_on_crossed_routes :
    let composer : Composer :=
      { registry := ⟨[.route "shop".toList .document, .route "logs".toList .sqlOperator]⟩ }
    let statement := SqlQuery.ofTable (.ofDriver "shop-pgsql".toList) .sqlOperator "users".toList
    let search := composer.documentQuery (.ofDriver "mongo-logs".toList) "users".toList
    let operation := Operation.select "meta->name as name".toList
    (composer.run operation statement).failure =
        some (.inexpressible .sqlOperator (.partNotAccepted .documentProjection)) ∧
      (composer.run operation statement).query = statement ∧
      (composer.run operation search).failure =
        some (.inexpressible .document (.partNotAccepted .rawProjection)) ∧
      (composer.run operation search).query = search := by
  intro composer statement search operation
  obtain ⟨hsql, hdocument⟩ := composer.failsWithoutTrace_sqlQuery_and_documentQuery
  have hstatement : (composer.run operation statement).failure =
      some (.inexpressible .sqlOperator (.partNotAccepted .documentProjection)) := by decide
  have hsearch : (composer.run operation search).failure =
      some (.inexpressible .document (.partNotAccepted .rawProjection)) := by decide
  exact ⟨hstatement, hsql.run _ _ _ hstatement, hsearch, hdocument.run _ _ _ hsearch⟩

end KeyPathQuery.Composer
