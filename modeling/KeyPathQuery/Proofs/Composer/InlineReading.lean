import KeyPathQuery.Proofs.Composer.LexicalSafety
import KeyPathQuery.Proofs.Sql.InlineValues

/-!
Statements for display keep every value to itself. A statement with its values inline is read, by
the rules of standard SQL, as the statement that a store gets, but for its placeholders: each of
them has become what its value is written as. A string is one literal with that string as its
content, an array or an object one literal with its compact text, and every other value stands
outside of literals. So no value, whatever quotes it is made of, is read as a part of the
statement around it or of another value.

Both texts come from one template in order, which is why their readings agree
(`Select.IsPlain.read_inline`).

Main statement: `read_inlineSql_runAll`.
-/

set_option autoImplicit false
set_option relaxedAutoImplicit false

namespace KeyPathQuery

open Sql

/-- The text of a plain statement with its values inline is read as the text for a store with the
values put in the place of their placeholders. -/
theorem Sql.Select.IsPlain.read_inline {select : Select} (hplain : select.IsPlain)
    (dialect : Dialect) :
    let compiled := select.compile (.ofDialect dialect)
    ∃ lexemes, Lexeme.read compiled.sql = some lexemes ∧
      Lexeme.placeholders lexemes = placeholdersOf dialect compiled.bindings.length ∧
      Lexeme.read (select.compile .inline).sql =
        some (Lexeme.putValues compiled.bindings lexemes) := by
  intro compiled
  have hstyle : PlaceholderStyle.ofDialect dialect ≠ .inline := by cases dialect <;> decide
  have horderly := hplain.sound.orderly
  have hbindings : compiled.bindings = select.template.slots := by
    simp only [compiled]
    rw [compile, written_eq, Template.write_bindings]
  refine ⟨select.template.lexemes (.ofDialect dialect) 1, ?_, ?_, ?_⟩
  · simp only [compiled]
    rw [compile, written_eq]
    exact horderly.read_fill _ 1
  · rw [hbindings]
    exact hplain.sound.placeholders_lexemes dialect
  · rw [hbindings, horderly.putValues_lexemes hstyle 1 1, compile, written_eq]
    exact horderly.read_fill .inline 1

namespace Composer

/-- The statement after a run on a fresh SQL query, with its values inline, is read as the
statement with placeholders, but for the placeholders: there is one for each binding, and the one
met first has become the first binding, and so on. -/
theorem read_inlineSql_runAll (composer : Composer) (connection : Connection) (dialect : Dialect)
    {table : Text} (htable : isColumnName table = true) {operations : List Operation}
    (hoperations : ∀ operation ∈ operations, operation.HasSpelledOperator) :
    let query := (composer.runAll (SqlQuery.ofTable connection dialect table) operations).1
    ∃ lexemes, Lexeme.read query.compile.sql = some lexemes ∧
      (Lexeme.placeholders lexemes).length = query.compile.bindings.length ∧
      Lexeme.read query.inlineSql = some (Lexeme.putValues query.compile.bindings lexemes) := by
  intro query
  have hplain : query.statement.IsPlain :=
    composer.isPlain_runAll (SqlQuery.isPlain_ofTable connection dialect htable) hoperations
  obtain ⟨lexemes, hread, hplaceholders, hinline⟩ := hplain.read_inline query.dialect
  refine ⟨lexemes, hread, ?_, hinline⟩
  have hcount (dialect : Dialect) (count : Nat) :
      (placeholdersOf dialect count).length = count := by
    cases dialect <;> simp [placeholdersOf]
  rw [hplaceholders, hcount]
  rfl

/-- Values made of quotes, at the start, at the end and in runs, next to literals of paths. -/
theorem read_inlineSql_runAll_of_quotes :
    let table := "users".toList
    let operations : List Operation :=
      [.filter "meta->a".toList "=".toList (.string "'' OR '1' = '1'".toList),
        .whereIn "meta->b".toList [.string "'".toList, .array [.string "'".toList], .null],
        .contains "meta->c".toList "'".toList]
    let query :=
      (standard.runAll (SqlQuery.ofTable (.ofDriver "pgsql".toList) .sqlOperator table)
        operations).1
    isColumnName table = true ∧ (∀ operation ∈ operations, operation.HasSpelledOperator) ∧
      ∃ lexemes, Lexeme.read query.compile.sql = some lexemes ∧
        (Lexeme.placeholders lexemes).length = 5 ∧
        Lexeme.read query.inlineSql = some (Lexeme.putValues
          [.string "'' OR '1' = '1'".toList, .string "'".toList, .array [.string "'".toList], .null,
            .string "%'%".toList] lexemes) := by
  intro table operations query
  have htable : isColumnName "users".toList = true := by decide
  have hoperator : Text.trim "=".toList ∈ Comparison.spellings := by decide
  have hoperations : ∀ operation ∈ operations, operation.HasSpelledOperator := by
    refine List.forall_mem_cons.mpr ⟨hoperator, ?_⟩
    exact List.forall_mem_cons.mpr ⟨trivial, List.forall_mem_singleton.mpr trivial⟩
  obtain ⟨lexemes, hread, hplaceholders, hinline⟩ := read_inlineSql_runAll standard
    (.ofDriver "pgsql".toList) .sqlOperator htable hoperations
  have hbindings : query.compile.bindings =
      [.string "'' OR '1' = '1'".toList, .string "'".toList, .array [.string "'".toList], .null,
        .string "%'%".toList] := by
    unfold query operations table
    rfl
  change (Lexeme.placeholders lexemes).length = query.compile.bindings.length at hplaceholders
  change Lexeme.read query.inlineSql =
    some (Lexeme.putValues query.compile.bindings lexemes) at hinline
  rw [hbindings] at hplaceholders hinline
  exact ⟨htable, hoperations, lexemes, hread, hplaceholders, hinline⟩

end Composer

end KeyPathQuery
