import KeyPathQuery.Proofs.Composer.FragmentShape

/-!
The SQL text that operations compose is lexically safe. Whatever texts and values a caller gives,
the statement has a reading in which every literal is closed, nothing harmful stands outside of
literals, and the placeholders are those of the values. Only the operator of a comparison has to
be one of the recognised ones, for others go into the text as they are.

A plain fragment keeps a statement plain (`Select.IsPlain.extend`), so every run does, and a plain
statement is safe.

Main statement: `read_compile_runAll`.
-/

set_option autoImplicit false
set_option relaxedAutoImplicit false

namespace KeyPathQuery

open Sql

/-! ### Plain statements -/

namespace Sql.Select

variable {select : Select}

theorem IsPlain.prepared (hselect : select.IsPlain) : select.prepared.IsPlain := by
  unfold Select.prepared
  by_cases hempty : select.projections.isEmpty = true
  · rw [if_pos hempty]
    exact { hselect with projections := List.forall_mem_singleton.mpr trivial }
  · rw [if_neg hempty]
    exact hselect

theorem IsPlain.andWhere (hselect : select.IsPlain) {predicate : Expression}
    (hpredicate : predicate.IsPlain) : (select.andWhere predicate).IsPlain := by
  unfold Select.andWhere
  cases hcondition : select.condition with
  | none => exact { hselect with condition := by simpa using hpredicate }
  | some existing =>
    have hexisting := hselect.condition existing hcondition
    exact { hselect with condition := by simpa using .binary rfl hexisting hpredicate }

/-- A plain fragment keeps a statement plain. -/
theorem IsPlain.extend (hselect : select.IsPlain) {fragment : Fragment}
    (hfragment : fragment.IsPlain) : (select.extend fragment).IsPlain := by
  have hprepared := hselect.prepared
  cases fragment with
  | filter predicate => exact hprepared.andWhere (Expression.IsConjunct.isPlain hfragment)
  | order item =>
    exact { hprepared with
      ordering := List.forall_mem_append.mpr
        ⟨hprepared.ordering, List.forall_mem_singleton.mpr hfragment⟩ }
  | projection item =>
    exact { hprepared with
      projections := List.forall_mem_append.mpr
        ⟨hprepared.projections, List.forall_mem_singleton.mpr hfragment⟩ }
  | documentFilter | documentSort | documentProjection => exact hselect

end Sql.Select

theorem Sql.Table.isPlain_ofText {table : Text} (htable : isColumnName table = true) :
    (Table.ofText table).IsPlain := by
  unfold isColumnName at htable
  unfold ofText
  cases hcut : table.cut ['.'] with
  | none =>
    rw [hcut] at htable
    exact ⟨by simp, htable⟩
  | some parts =>
    rw [hcut] at htable
    obtain ⟨hschema, hname⟩ := Bool.and_eq_true_iff.mp htable
    exact ⟨by simpa using hschema, hname⟩

theorem SqlQuery.isPlain_ofTable (connection : Connection) (dialect : Dialect) {table : Text}
    (htable : isColumnName table = true) :
    (ofTable connection dialect table).statement.IsPlain where
  projections := by simp [ofTable]
  tables := List.forall_mem_singleton.mpr (Table.isPlain_ofText htable)
  condition := by simp [ofTable]
  ordering := by simp [ofTable]

/-! ### The text after a run -/

namespace Composer

theorem isPlain_runAll (composer : Composer) {query : SqlQuery}
    (hquery : query.statement.IsPlain) {operations : List Operation}
    (hoperations : ∀ operation ∈ operations, operation.HasSpelledOperator) :
    (composer.runAll query operations).1.statement.IsPlain := by
  apply runAll_induction _ hquery
  intro fragment hmem select hselect
  exact hselect.extend (composer.isPlain_fragmentsFor query hoperations fragment hmem)

theorem isPlain_sqlQuery (composer : Composer) (connection : Connection) {table : Text}
    (htable : isColumnName table = true) :
    (composer.sqlQuery connection table).statement.IsPlain :=
  SqlQuery.isPlain_ofTable connection _ htable

/-- The statement after a run on a fresh SQL query has a reading in which every literal is closed.
Nothing harmful stands outside of the literals, and the placeholders there are those of the
bindings, one for each and in their order. -/
theorem read_compile_runAll (composer : Composer) (connection : Connection) {table : Text}
    (htable : isColumnName table = true) {operations : List Operation}
    (hoperations : ∀ operation ∈ operations, operation.HasSpelledOperator) :
    let query := (composer.runAll (composer.sqlQuery connection table) operations).1
    ∃ lexemes, Lexeme.read query.compile.sql = some lexemes ∧ Lexeme.Harmless lexemes ∧
      Lexeme.placeholders lexemes =
        placeholdersOf (composer.adapterFor connection).dialect query.compile.bindings.length := by
  intro query
  have hplain : query.statement.IsPlain :=
    composer.isPlain_runAll (composer.isPlain_sqlQuery connection htable) hoperations
  have hdialect : query.dialect = (composer.adapterFor connection).dialect := by
    simp only [query, runAll_sqlQuery, SqlQuery.dialect_foldl_extend]
    rfl
  rw [← hdialect]
  exact hplain.read_compile query.dialect

/-- Hyphens and dollar signs of segments are no comments and no placeholders. -/
theorem read_compile_runAll_of_hyphens_and_dollars :
    let table := "app.users".toList
    let operations : List Operation :=
      [.filter "meta->a--b->$1".toList "==".toList (.string "' OR 1 = 1 --".toList),
        .select "meta->$3".toList, .contains "users.meta".toList ";".toList]
    let query := (standard.runAll (standard.sqlQuery (.ofDriver "pgsql".toList) table) operations).1
    isColumnName table = true ∧ (∀ operation ∈ operations, operation.HasSpelledOperator) ∧
      ∃ lexemes, Lexeme.read query.compile.sql = some lexemes ∧ Lexeme.Harmless lexemes ∧
        Lexeme.placeholders lexemes = [.numbered ['1'], .numbered ['2']] := by
  intro table operations query
  have htable : isColumnName "app.users".toList = true := by decide
  have hoperator : Text.trim "==".toList ∈ Comparison.spellings := by decide
  have hoperations : ∀ operation ∈ operations, operation.HasSpelledOperator := by
    refine List.forall_mem_cons.mpr ⟨hoperator, ?_⟩
    exact List.forall_mem_cons.mpr ⟨trivial, List.forall_mem_singleton.mpr trivial⟩
  obtain ⟨lexemes, hread, hharmless, hplaceholders⟩ :=
    read_compile_runAll standard (.ofDriver "pgsql".toList) htable hoperations
  have hdialect : (standard.adapterFor (.ofDriver "pgsql".toList)).dialect = .sqlOperator := by
    decide +kernel
  have hcount : query.compile.bindings.length = 2 := by
    unfold query operations table
    decide +kernel
  rw [hdialect, hcount] at hplaceholders
  exact ⟨htable, hoperations, lexemes, hread, hharmless, hplaceholders⟩

end Composer

end KeyPathQuery
