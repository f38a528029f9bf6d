import KeyPathQuery.Proofs.Composer.BoundValues
import KeyPathQuery.Proofs.Composer.FragmentShape
import KeyPathQuery.Proofs.Sql.Conjunct

/-!
The condition that operations compose is the conjunction of their predicates. Predicates are
joined by AND without parentheses around them, and nothing keeps a predicate from showing an AND
of its own but its shape. So the text of the condition is taken apart again: its conjuncts are
the predicates of the operations in their order, each written by itself with its placeholders
counted on from those before it, in all three styles and for all values.

The template of the condition is that of the predicates joined (`Template.conjunction`), which
one fragment keeps so, and with it a run. The text of a statement is that of the statement
without its condition with the condition put in (`Select.exists_compile_sql`).

Main statement: `conjuncts_condition_runAll`.
-/

set_option autoImplicit false
set_option relaxedAutoImplicit false

namespace KeyPathQuery

open Sql

/-! ### Templates joined by AND -/

namespace Sql.Template

theorem join_cons (mark : Text) (template : Template) (rest : List Template) :
    join mark (template :: rest) = template ++ rest.flatMap (.code mark :: ·) := by
  induction rest generalizing template with
  | nil => simp [join]
  | cons next others ih => rw [join, ih, List.flatMap_cons, List.cons_append]

/-- The template of templates joined by AND, if there are any. -/
def conjunction : List Template → Option Template
  | [] => none
  | template :: rest => some (join " AND ".toList (template :: rest))

theorem conjunction_concat (templates : List Template) (last : Template) :
    conjunction (templates ++ [last]) =
      some ((conjunction templates).elim last (· ++ .code " AND ".toList :: last)) := by
  cases templates with
  | nil => rfl
  | cons template rest =>
    simp only [List.cons_append, conjunction, Option.elim_some, join_cons, List.flatMap_append,
      List.flatMap_singleton, List.append_assoc]

/-- Without slots it does not matter where the numbers of the slots start. -/
theorem fill_of_slots_eq_nil {template : Template} (hslots : template.slots = [])
    (slotText : Nat → Json → Text) (first second : Nat) :
    template.fill slotText first = template.fill slotText second := by
  induction template with
  | nil => rfl
  | cons piece rest ih =>
    cases piece with
    | code chars => rw [fill, fill, ih hslots]
    | literal content => rw [fill, fill, ih hslots]
    | slot value => cases hslots

end Sql.Template

/-! ### The condition of a statement -/

/-- The predicate of a fragment, if it is one. -/
def Fragment.predicate? : Fragment → Option Expression
  | .filter predicate => some predicate
  | _ => none

namespace Sql.Select

/-- A fragment adds its predicate to the conjunction that is the condition. -/
theorem template_condition_extend {select : Select} {predicates : List Expression}
    (hcondition : select.condition.map Expression.template =
      Template.conjunction (predicates.map Expression.template)) (fragment : Fragment) :
    (select.extend fragment).condition.map Expression.template =
      Template.conjunction
        ((predicates ++ fragment.predicate?.toList).map Expression.template) := by
  cases fragment with
  | filter predicate =>
    change (select.prepared.andWhere predicate).condition.map _ =
      Template.conjunction ((predicates ++ [predicate]).map _)
    rw [List.map_append, List.map_singleton, Template.conjunction_concat, ← hcondition]
    unfold andWhere
    rw [condition_prepared]
    cases select.condition with
    | none => rfl
    | some existing => rfl
  | order | projection =>
    change select.prepared.condition.map _ = Template.conjunction ((predicates ++ []).map _)
    rw [condition_prepared, List.append_nil, hcondition]
  | documentFilter | documentSort | documentProjection =>
    change select.condition.map _ = Template.conjunction ((predicates ++ []).map _)
    rw [List.append_nil, hcondition]

end Sql.Select

/-! ### The text of a statement around its condition -/

namespace Sql.Select

/-- The statement without its condition. -/
def unconditional (select : Select) : Select :=
  { select with condition := none }

/-- The statement without its condition and its ordering. -/
def front (select : Select) : Select :=
  { select with condition := none, ordering := [] }

theorem template_eq (select : Select) :
    select.template = select.front.template ++
      (select.conditionTemplate.flatMap (.code [' '] :: ·) ++
        select.orderingTemplate.flatMap (.code [' '] :: ·)) := by
  have hcondition : select.front.conditionTemplate = [] := rfl
  have hordering : select.front.orderingTemplate = [] := rfl
  have hprojection : select.front.projectionTemplate = select.projectionTemplate := rfl
  have htables : select.front.tablesTemplate = select.tablesTemplate := rfl
  unfold template
  rw [hcondition, hordering, hprojection, htables, Template.join_cons, Template.join_cons]
  simp only [List.flatMap_append, List.append_nil, List.append_assoc]

theorem template_unconditional (select : Select) :
    select.unconditional.template = select.front.template ++
      select.orderingTemplate.flatMap (.code [' '] :: ·) :=
  select.unconditional.template_eq

theorem compile_sql_eq (style : PlaceholderStyle) (select : Select) :
    (select.compile style).sql = select.template.fill style.slotText 1 := by
  rw [compile, written_eq]
  rfl

/-- The text of a statement that binds values in its condition alone is that of the statement
without the condition, with the text of the condition put in behind the tables. -/
theorem exists_compile_sql {select : Select} (hselect : select.BindsInCondition)
    (style : PlaceholderStyle) :
    ∃ back, (select.unconditional.compile style).sql = (select.front.compile style).sql ++ back ∧
      (select.compile style).sql = (select.front.compile style).sql ++
        (select.condition.elim [] fun condition ↦
          " WHERE ".toList ++ (condition.compile style).sql) ++ back := by
  have hfront : select.front.template.slots = [] := by
    rw [slots_template]
    exact (congrArg (· ++ []) hselect.projections).trans (List.append_nil _)
  have hback : Template.slots (select.orderingTemplate.flatMap (.code [' '] :: ·)) = [] := by
    unfold orderingTemplate
    split_ifs with hempty
    · rfl
    · simpa [List.flatMap_map, OrderItem.slots_template] using hselect.ordering
  refine ⟨Template.fill style.slotText 1 (select.orderingTemplate.flatMap (.code [' '] :: ·)),
    ?_, ?_⟩
  · rw [compile_sql_eq, compile_sql_eq, template_unconditional, Template.fill_append, hfront]
    rfl
  · have hcondition : Template.fill style.slotText 1
        (select.conditionTemplate.flatMap (.code [' '] :: ·)) =
          select.condition.elim [] fun condition ↦
            " WHERE ".toList ++ (condition.compile style).sql := by
      unfold conditionTemplate
      cases select.condition with
      | none => rfl
      | some condition =>
        rw [Option.elim_some, Expression.compile, Expression.written_eq, List.flatMap_singleton]
        rfl
    rw [compile_sql_eq, compile_sql_eq, template_eq, Template.fill_append, Template.fill_append,
      hfront, List.length_nil, Nat.add_zero, hcondition,
      Template.fill_of_slots_eq_nil hback _ _ 1, List.append_assoc]

end Sql.Select

/-! ### The predicates of a run -/

/-- The texts of expressions, each written by itself with its placeholders counted on from a number
of values and from those of the expressions before it. -/
def Sql.Expression.writtenEach (style : PlaceholderStyle) : Nat → List Expression → List Text
  | _, [] => []
  | before, expression :: rest =>
    (expression.written style before).sql ::
      writtenEach style (before + expression.values.length) rest

theorem Sql.Expression.writtenEach_eq (style : PlaceholderStyle) (before : Nat)
    (expressions : List Expression) :
    writtenEach style before expressions =
      Template.each (fun place template ↦ template.fill style.slotText place) (before + 1)
        (expressions.map template) := by
  induction expressions generalizing before with
  | nil => rfl
  | cons expression rest ih =>
    rw [writtenEach, written_eq, ih, List.map_cons, Template.each, slots_template,
      Nat.add_right_comm]
    rfl

/-- The condition of a run is made of the predicates of its fragments. -/
theorem SqlQuery.template_condition_foldl_extend (fragments : List Fragment) (query : SqlQuery)
    (predicates : List Expression)
    (hcondition : query.statement.condition.map Expression.template =
      Template.conjunction (predicates.map Expression.template)) :
    (fragments.foldl extend query).statement.condition.map Expression.template =
      Template.conjunction
        ((predicates ++ fragments.filterMap Fragment.predicate?).map Expression.template) := by
  induction fragments generalizing query predicates with
  | nil => rw [List.filterMap_nil, List.append_nil, List.foldl_nil, hcondition]
  | cons fragment rest ih =>
    have hextend : (query.extend fragment).statement.condition.map Expression.template = _ :=
      Select.template_condition_extend hcondition fragment
    rw [List.foldl_cons, ih _ _ hextend, List.append_assoc]
    cases fragment <;> rfl

namespace Composer

/-- The predicates that operations are phrased as on a connection, of those that succeed, in
order. -/
def predicates (composer : Composer) (connection : Connection) (operations : List Operation) :
    List Expression :=
  operations.filterMap fun operation ↦
    (composer.phrase connection operation).toOption.bind Fragment.predicate?

theorem predicate?_fragmentFor (composer : Composer) (query : SqlQuery) (operation : Operation) :
    (composer.fragmentFor query operation).toOption.bind Fragment.predicate? =
      (composer.phrase query.connection operation).toOption.bind Fragment.predicate? := by
  unfold fragmentFor
  cases composer.phrase query.connection operation with
  | error failure => rfl
  | ok fragment => cases fragment <;> rfl

theorem filterMap_predicate?_fragmentsFor (composer : Composer) (query : SqlQuery)
    (operations : List Operation) :
    (composer.fragmentsFor query operations).filterMap Fragment.predicate? =
      composer.predicates query.connection operations := by
  unfold fragmentsFor predicates
  rw [List.filterMap_filterMap]
  simp only [predicate?_fragmentFor]

theorem isConjunct_of_mem_predicates (composer : Composer) (query : SqlQuery)
    {operations : List Operation}
    (hoperations : ∀ operation ∈ operations, operation.HasSpelledOperator) :
    ∀ predicate ∈ composer.predicates query.connection operations, predicate.IsConjunct := by
  intro predicate hmem
  rw [← filterMap_predicate?_fragmentsFor, List.mem_filterMap] at hmem
  obtain ⟨fragment, hfragment, hpredicate⟩ := hmem
  have hplain := composer.isPlain_fragmentsFor query hoperations fragment hfragment
  cases fragment with
  | filter other =>
    obtain rfl := Option.some.inj hpredicate
    exact hplain
  | order | projection | documentFilter | documentSort | documentProjection => cases hpredicate

theorem template_condition_runAll (composer : Composer) (connection : Connection)
    (dialect : Dialect) (table : Text) (operations : List Operation) :
    let query := (composer.runAll (SqlQuery.ofTable connection dialect table) operations).1
    query.statement.condition.map Expression.template =
      Template.conjunction ((composer.predicates connection operations).map
        Expression.template) := by
  intro query
  have hfold := SqlQuery.template_condition_foldl_extend
    (composer.fragmentsFor (SqlQuery.ofTable connection dialect table) operations)
    (.ofTable connection dialect table) [] rfl
  rw [List.nil_append, filterMap_predicate?_fragmentsFor] at hfold
  simp only [query, runAll_sqlQuery]
  exact hfold

/-- The condition after a run on a fresh SQL query is the conjunction of the predicates of the
operations, in whatever style: the text of the statement is that of the statement without the
condition with `WHERE` and the text of the condition put in, its conjuncts are the texts of the
predicates in the order of the calls, and there is none if there are no predicates. -/
theorem conjuncts_condition_runAll (composer : Composer) (connection : Connection)
    (dialect : Dialect) (table : Text) {operations : List Operation}
    (hoperations : ∀ operation ∈ operations, operation.HasSpelledOperator)
    (style : PlaceholderStyle) :
    let select :=
      (composer.runAll (SqlQuery.ofTable connection dialect table) operations).1.statement
    let predicates := composer.predicates connection operations
    let condition := select.condition.map fun condition ↦ (condition.compile style).sql
    (∃ back, (select.unconditional.compile style).sql = (select.front.compile style).sql ++ back ∧
      (select.compile style).sql = (select.front.compile style).sql ++
        condition.elim [] (" WHERE ".toList ++ ·) ++ back) ∧
    (condition = none ↔ predicates = []) ∧
    ∀ text ∈ condition, conjuncts text = some (Expression.writtenEach style 0 predicates) := by
  intro select predicates condition
  have htemplate : select.condition.map Expression.template =
      Template.conjunction (predicates.map Expression.template) :=
    composer.template_condition_runAll connection dialect table operations
  have hconjuncts : ∀ predicate ∈ predicates, predicate.IsConjunct :=
    composer.isConjunct_of_mem_predicates (.ofTable connection dialect table) hoperations
  have hcondition : condition = (Template.conjunction (predicates.map Expression.template)).map
      (Template.fill style.slotText 1) := by
    rw [← htemplate, Option.map_map]
    refine congrArg (Option.map · select.condition) (funext fun expression ↦ ?_)
    rw [Expression.compile, Expression.written_eq]
    rfl
  refine ⟨?_, ?_, ?_⟩
  · obtain ⟨back, hunconditional, hcompile⟩ := Select.exists_compile_sql
      (composer.bindsInCondition_runAll (.ofTable connection dialect table) ⟨rfl, rfl⟩ operations)
      style
    refine ⟨back, hunconditional, ?_⟩
    rw [Option.elim_map]
    exact hcompile
  · rw [hcondition]
    cases predicates with
    | nil => simp [Template.conjunction]
    | cons predicate rest => simp [Template.conjunction]
  · intro text htext
    rw [hcondition] at htext
    cases hpredicates : predicates with
    | nil =>
      rw [hpredicates] at htext
      cases htext
    | cons predicate rest =>
      rw [hpredicates] at htext hconjuncts
      obtain rfl := Option.some.inj htext
      rw [Expression.writtenEach_eq]
      apply Template.conjuncts_fill_join style 1 (List.cons_ne_nil _ _)
      · exact List.forall_mem_map.mpr fun other hother ↦ (hconjuncts other hother).isPlain.sound
      · exact List.forall_mem_map.mpr fun other hother ↦ (hconjuncts other hother).clear

/-- A value with a quote, an AND and a parenthesis, next to a predicate with an AND of its own. -/
theorem conjuncts_condition_runAll_of_values_like_sql :
    let connection := Connection.ofDriver "mysql".toList
    let operations : List Operation :=
      [.filter "meta->a".toList "=".toList (.string "x' AND (y".toList),
        .orderBy "id".toList "desc".toList, .present "meta->b".toList]
    let select := (standard.runAll (SqlQuery.ofTable connection .sqlFunction "users".toList)
      operations).1.statement
    (∀ operation ∈ operations, operation.HasSpelledOperator) ∧
      ∃ text ∈ select.condition.map fun condition ↦ (condition.compile .inline).sql,
        conjuncts text = some
          ["JSON_UNQUOTE(JSON_EXTRACT(meta, '$.a')) = 'x'' AND (y'".toList,
            "(JSON_CONTAINS_PATH(meta, 'one', '$.b') AND ".toList ++
              "JSON_TYPE(JSON_EXTRACT(meta, '$.b')) <> 'NULL')".toList] := by
  intro connection operations select
  have hoperator : Text.trim "=".toList ∈ Comparison.spellings := by decide
  have hoperations : ∀ operation ∈ operations, operation.HasSpelledOperator := by
    refine List.forall_mem_cons.mpr ⟨hoperator, ?_⟩
    exact List.forall_mem_cons.mpr ⟨trivial, List.forall_mem_singleton.mpr trivial⟩
  have htexts : Expression.writtenEach .inline 0 (standard.predicates connection operations) =
      ["JSON_UNQUOTE(JSON_EXTRACT(meta, '$.a')) = 'x'' AND (y'".toList,
        "(JSON_CONTAINS_PATH(meta, 'one', '$.b') AND ".toList ++
          "JSON_TYPE(JSON_EXTRACT(meta, '$.b')) <> 'NULL')".toList] := by
    unfold connection operations
    decide +kernel
  obtain ⟨-, hnone, hsplit⟩ :=
    conjuncts_condition_runAll standard connection .sqlFunction "users".toList hoperations .inline
  rw [htexts] at hsplit
  refine ⟨hoperations, ?_⟩
  cases hcondition : select.condition.map fun condition ↦ (condition.compile .inline).sql with
  | none =>
    rw [hnone.mp hcondition] at htexts
    cases htexts
  | some text => exact ⟨text, rfl, hsplit text hcondition⟩

end Composer

end KeyPathQuery
