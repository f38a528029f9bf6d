import KeyPathQuery.Proofs.Composer.Reading
import KeyPathQuery.Proofs.Composer.SqlStep
import KeyPathQuery.Proofs.Sql.Template

/-!
The values that a run of operations binds in a SQL query. Only predicates bind values:
projections and orderings are made of paths alone. So the values of a statement, which a store
reads in the order projection, condition, ordering, are those of its condition, and these came
in the order of the operations.

Main statement: `values_runAll` says that the values of the statement after a run are those
before it and then those of the operations that succeeded, one operation after another.
-/

set_option autoImplicit false
set_option relaxedAutoImplicit false

namespace KeyPathQuery

open Sql Phrasing

/-! ### What an operation binds -/

/-- The values that an operation binds in a SQL dialect. Without extraction a comparison becomes
a search for the text of the value. -/
def Operation.boundValues (dialect : Dialect) : Operation → List Json
  | .filter _ _ value =>
    if dialect = .generic then [.string (Like.containsPattern (RootColumn.valueText value))]
    else [value]
  | .whereIn _ values => values
  | .contains _ search => [.string (Like.containsPattern search)]
  | .present _ | .orderBy _ _ | .select _ => []

/-- The values that the operations of a run bind, of those that succeed, in order. -/
def boundByRun (dialect : Dialect) (operations : List Operation)
    (answers : List (Option FilterError)) : List Json :=
  ((operations.zip answers).filter (·.2.isNone)).flatMap (·.1.boundValues dialect)

/-- The values in a fragment of a statement. -/
def Fragment.values : Fragment → List Json
  | .filter predicate => predicate.values
  | .order item => item.values
  | .projection item => item.values
  | _ => []

/-! ### What the phrasings bind -/

namespace Sql.Expression

theorem values_memberOf (target : Expression) (list : List Json) (htarget : target.values = []) :
    (memberOf target list).values = list := by
  unfold memberOf
  split_ifs with hempty
  · rw [List.isEmpty_iff.mp hempty]
    rfl
  · have hbinds : (list.map Expression.bind).flatMap Expression.values = list := by
      simp [List.flatMap_map, values]
    rw [values, htarget, valuesList_eq_flatMap, hbinds, List.nil_append]

theorem values_textContains (target : Expression) (search : Text) (htarget : target.values = []) :
    (textContains target search).values = [.string (Like.containsPattern search)] := by
  rw [textContains, values, htarget]
  rfl

end Sql.Expression

theorem Phrasing.FunctionCall.values_present (path : KeyPath) :
    (FunctionCall.present path).values = [] := by
  unfold FunctionCall.present
  split <;> rfl

theorem Phrasing.OperatorChain.values_steps (target : Expression) (segments : List Text) :
    (OperatorChain.steps target segments).values = target.values := by
  induction segments generalizing target with
  | nil => rfl
  | cons segment rest ih =>
    have hstep (asText : Bool) :
        (Expression.jsonAccess target (.string segment) asText).values = target.values :=
      List.append_nil _
    cases rest with
    | nil => exact hstep true
    | cons next others => exact (ih _).trans (hstep false)

namespace Dialect.Extracts

variable {dialect : Dialect} {extraction : Extraction}

/-- The values at a path bind nothing, in whatever SQL dialect. -/
theorem values_values (hextracts : dialect.Extracts extraction) (path : KeyPath) :
    (extraction.values path).values = [] := by
  cases hextracts with
  | sqlFunction => rfl
  | sqlOperator => exact OperatorChain.values_steps _ _
  | generic => rfl

/-- Neither does the test that they are there. -/
theorem values_present (hextracts : dialect.Extracts extraction) (path : KeyPath) :
    (extraction.present path).values = [] := by
  cases hextracts with
  | sqlFunction => exact FunctionCall.values_present path
  | sqlOperator => exact OperatorChain.values_steps _ _
  | generic => rfl

theorem values_compareValue {target : Expression} (htarget : target.values = [])
    (comparison : Comparison) (value : Json) :
    (compareValue target comparison value).values = [value] := by
  rw [compareValue, Expression.values, htarget]
  rfl

/-- A comparison binds the value, or the text to search for where nothing is extracted. -/
theorem values_compare (hextracts : dialect.Extracts extraction) {target : Expression}
    (htarget : target.values = []) (comparison : Comparison) (path operator : Text)
    (value : Json) :
    (extraction.compare target comparison value).values =
      (Operation.filter path operator value).boundValues dialect := by
  cases hextracts with
  | sqlFunction => exact values_compareValue htarget comparison value
  | sqlOperator => exact values_compareValue htarget comparison value
  | generic => exact Expression.values_textContains target _ htarget

/-- A SQL dialect binds in the fragment of an operation the values of the operation. -/
theorem values_phrase (hextracts : dialect.Extracts extraction) {operation : Operation}
    {request : Request} (hspells : operation.Spells request) (path : KeyPath) :
    (extraction.phrase path request).values = operation.boundValues dialect := by
  have hvalues := hextracts.values_values path
  cases hspells with
  | filter text operator value => exact hextracts.values_compare hvalues _ text operator value
  | whereIn text list => exact Expression.values_memberOf _ list hvalues
  | contains text search => exact Expression.values_textContains _ search hvalues
  | present text => exact hextracts.values_present path
  | orderBy | select => exact hvalues

end Dialect.Extracts

/-! ### Statements whose values are all in the condition -/

/-- A fragment that binds values only as a predicate. -/
def Fragment.BindsInPredicate : Fragment → Prop
  | .order item => item.values = []
  | .projection item => item.values = []
  | _ => True

theorem Dialect.Extracts.bindsInPredicate_phrase {dialect : Dialect} {extraction : Extraction}
    (hextracts : dialect.Extracts extraction) (path : KeyPath) (request : Request) :
    (extraction.phrase path request).BindsInPredicate := by
  cases request with
  | compare | memberOf | contains | present => trivial
  | orderBy | select => exact hextracts.values_values path

namespace Sql.Select

/-- A statement that binds values only in its condition. -/
structure BindsInCondition (select : Select) : Prop where
  projections : select.projections.flatMap SelectItem.values = []
  ordering : select.ordering.flatMap OrderItem.values = []

variable {select : Select}

theorem BindsInCondition.values_eq (hselect : select.BindsInCondition) :
    select.values = select.condition.toList.flatMap Expression.values := by
  rw [values, hselect.projections, hselect.ordering, List.nil_append, List.append_nil]

theorem condition_prepared (select : Select) : select.prepared.condition = select.condition := by
  unfold prepared
  by_cases hempty : select.projections.isEmpty = true
  · rw [if_pos hempty]
  · rw [if_neg hempty]

theorem BindsInCondition.prepared (hselect : select.BindsInCondition) :
    select.prepared.BindsInCondition := by
  unfold Select.prepared
  by_cases hempty : select.projections.isEmpty = true
  · rw [if_pos hempty]
    exact ⟨rfl, hselect.ordering⟩
  · rw [if_neg hempty]
    exact hselect

theorem condition_andWhere (select : Select) (predicate : Expression) :
    (select.andWhere predicate).condition.toList.flatMap Expression.values =
      select.condition.toList.flatMap Expression.values ++ predicate.values := by
  unfold andWhere
  cases select.condition with
  | none => simp
  | some existing => simp [Expression.values]

/-- Adding a fragment keeps the values in the condition. -/
theorem BindsInCondition.extend (hselect : select.BindsInCondition) {fragment : Fragment}
    (hfragment : fragment.BindsInPredicate) : (select.extend fragment).BindsInCondition := by
  have hprepared := hselect.prepared
  cases fragment with
  | filter predicate =>
    change (select.prepared.andWhere predicate).BindsInCondition
    unfold andWhere
    cases select.prepared.condition with
    | none => exact ⟨hprepared.projections, hprepared.ordering⟩
    | some existing => exact ⟨hprepared.projections, hprepared.ordering⟩
  | order item =>
    refine ⟨hprepared.projections, ?_⟩
    change (select.prepared.ordering ++ [item]).flatMap OrderItem.values = []
    rw [List.flatMap_append, hprepared.ordering, List.flatMap_singleton]
    exact hfragment
  | projection item =>
    refine ⟨?_, hprepared.ordering⟩
    change (select.prepared.projections ++ [item]).flatMap SelectItem.values = []
    rw [List.flatMap_append, hprepared.projections, List.flatMap_singleton]
    exact hfragment
  | documentFilter | documentSort | documentProjection => exact hselect

/-- Adding a fragment adds its values behind those of the statement. -/
theorem BindsInCondition.values_extend (hselect : select.BindsInCondition) {fragment : Fragment}
    (hfragment : fragment.BindsInPredicate) :
    (select.extend fragment).values = select.values ++ fragment.values := by
  rw [(hselect.extend hfragment).values_eq, hselect.values_eq]
  cases fragment with
  | filter predicate =>
    change (select.prepared.andWhere predicate).condition.toList.flatMap _ = _
    rw [condition_andWhere, condition_prepared]
    rfl
  | order item =>
    change select.prepared.condition.toList.flatMap _ = _ ++ item.values
    rw [condition_prepared, (hfragment : item.values = []), List.append_nil]
  | projection item =>
    change select.prepared.condition.toList.flatMap _ = _ ++ item.values
    rw [condition_prepared, (hfragment : item.values = []), List.append_nil]
  | documentFilter | documentSort | documentProjection => exact (List.append_nil _).symm

end Sql.Select

/-! ### The values after a run -/

/-- The values of a statement are those that go with its text to a store. -/
theorem SqlQuery.bindings_compile (query : SqlQuery) :
    query.compile.bindings = query.statement.values := by
  rw [compile, Select.compile, Select.written_eq, Template.write_bindings, Select.slots_template]

theorem SqlQuery.values_foldl_extend {fragments : List Fragment}
    (hfragments : ∀ fragment ∈ fragments, fragment.BindsInPredicate) (query : SqlQuery)
    (hquery : query.statement.BindsInCondition) :
    (fragments.foldl extend query).statement.values =
      query.statement.values ++ fragments.flatMap Fragment.values := by
  induction fragments generalizing query with
  | nil => simp
  | cons fragment rest ih =>
    have hfirst := hfragments fragment List.mem_cons_self
    have hrest := fun other hother ↦ hfragments other (List.mem_cons_of_mem _ hother)
    rw [List.foldl_cons, ih hrest (query.extend fragment) (hquery.extend hfirst),
      List.flatMap_cons, ← List.append_assoc]
    exact congrArg (· ++ _) (hquery.values_extend hfirst)

namespace Composer

theorem bindsInPredicate_fragmentsFor (composer : Composer) (query : SqlQuery)
    (operations : List Operation) :
    ∀ fragment ∈ composer.fragmentsFor query operations, fragment.BindsInPredicate := by
  intro fragment hmem
  obtain ⟨operation, -, hfragment⟩ := mem_fragmentsFor_iff.mp hmem
  obtain ⟨extraction, path, request, hextracts, -, rfl⟩ :=
    fragmentFor_sqlQuery_eq_ok_iff.mp hfragment
  exact hextracts.bindsInPredicate_phrase path request

/-- The fragments of a run have the values of the operations that succeed. -/
theorem values_fragmentsFor (composer : Composer) (query : SqlQuery)
    (operations : List Operation) :
    (composer.fragmentsFor query operations).flatMap Fragment.values =
      boundByRun (composer.adapterFor query.connection).dialect operations
        (operations.map (composer.failure? query)) := by
  induction operations with
  | nil => rfl
  | cons operation rest ih =>
    unfold boundByRun at ih ⊢
    rw [List.map_cons, List.zip_cons_cons]
    cases hfragment : composer.fragmentFor query operation with
    | error failure =>
      rw [failure?_of_error hfragment, fragmentsFor_cons_of_error hfragment, ih,
        List.filter_cons_of_neg (by simp)]
    | ok fragment =>
      obtain ⟨extraction, path, request, hextracts, hread, rfl⟩ :=
        fragmentFor_sqlQuery_eq_ok_iff.mp hfragment
      rw [failure?_of_ok hfragment, fragmentsFor_cons_of_ok hfragment, List.flatMap_cons, ih,
        List.filter_cons_of_pos (by simp), List.flatMap_cons,
        hextracts.values_phrase (Operation.spells_of_read_eq_ok hread)]

theorem bindsInCondition_runAll (composer : Composer) (query : SqlQuery)
    (hquery : query.statement.BindsInCondition) (operations : List Operation) :
    (composer.runAll query operations).1.statement.BindsInCondition := by
  apply runAll_induction _ hquery
  intro fragment hmem select hselect
  exact hselect.extend (bindsInPredicate_fragmentsFor composer query operations fragment hmem)

/-- A run adds the values of the operations that succeed, in order, to those of the statement. -/
theorem values_runAll (composer : Composer) (query : SqlQuery)
    (hquery : query.statement.BindsInCondition) (operations : List Operation) :
    (composer.runAll query operations).1.statement.values =
      query.statement.values ++
        boundByRun (composer.adapterFor query.connection).dialect operations
          (composer.runAll query operations).2 := by
  rw [runAll_sqlQuery, SqlQuery.values_foldl_extend
    (bindsInPredicate_fragmentsFor composer query operations) query hquery, values_fragmentsFor]

end Composer

end KeyPathQuery
