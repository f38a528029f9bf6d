import KeyPathQuery.Proofs.Composer.Interleaving

/-!
What a SQL query projects after any use of it. A caller may run operations on the query, make
sure of a projection, and project plain columns, in any order and any number of times. The first
of these steps that has an effect decides the front of the projection: plain columns stand for
themselves, and every other step puts in the projection of every column. All later steps add
their items at the end and do nothing else to the projection.

The invariant is that a query which projects something only grows (`projections_runSteps_of_ne_nil`),
so the front is settled at the first step that has an effect (`projections_runSteps_of_nil`).

Main statement: `projections_runSteps_ofTable`.
-/

set_option autoImplicit false
set_option relaxedAutoImplicit false

namespace KeyPathQuery

/-! ### Steps -/

/-- The items that a fragment adds to a projection. -/
def Fragment.items : Fragment → List Sql.SelectItem
  | .projection item => [item]
  | _ => []

/-- One use of a SQL query by a caller. -/
inductive SqlQuery.Step where
  /-- One of the six operations, which may fail. -/
  | operate (operation : Operation)
  /-- Every column is projected, unless something is projected already. -/
  | ensureSelectAll
  /-- Plain columns are projected, maybe none. -/
  | selectColumns (columns : List Text)

namespace SqlQuery.Step

/-- The query after a step, and the failure of the operation if it failed. -/
def run (composer : Composer) (query : SqlQuery) : Step → Outcome SqlQuery
  | .operate operation => composer.run operation query
  | .ensureSelectAll => ⟨QueryTarget.ensureSelectAll query, none⟩
  | .selectColumns columns => ⟨query.selectColumns columns, none⟩

/-- Whether a step with its answer has an effect on a query that projects nothing. -/
def acts : Step → Option FilterError → Bool
  | .operate _, answer => answer.isNone
  | .ensureSelectAll, _ => true
  | .selectColumns columns, _ => !columns.isEmpty

/-- What the first step that has an effect puts in front of its items. -/
def baseline : Step → List Sql.SelectItem
  | .selectColumns _ => []
  | _ => [.wildcard]

/-- The items that a step with its answer adds: plain columns, or the projection of a selection
that succeeded. -/
def items (composer : Composer) (connection : Connection) :
    Step → Option FilterError → List Sql.SelectItem
  | .operate (.select selection), none =>
    match composer.phrase connection (.select selection) with
    | .ok fragment => fragment.items
    | .error _ => []
  | .selectColumns columns, _ => columns.map .ofColumnName
  | _, _ => []

end SqlQuery.Step

namespace Composer

/-- Takes steps one after another; the last query, and the steps with their answers. -/
def runSteps (composer : Composer) (query : SqlQuery) (steps : List SqlQuery.Step) :
    SqlQuery × List (SqlQuery.Step × Option FilterError) :=
  runEach (fun query step ↦ step.run composer query) query steps

/-- The items that the steps of a run add, in order. -/
def itemsOf (composer : Composer) (connection : Connection)
    (taken : List (SqlQuery.Step × Option FilterError)) : List Sql.SelectItem :=
  taken.flatMap fun (step, answer) ↦ step.items composer connection answer

end Composer

/-! ### Statements -/

namespace Sql.Select

/-- A part of a statement makes sure of a projection, and adds its item if it has one. -/
theorem projections_extend {fragment : Fragment} (hsql : fragment.isSql = true) (select : Select) :
    (select.extend fragment).projections = select.prepared.projections ++ fragment.items := by
  cases fragment with
  | filter predicate => exact (projections_andWhere _ _).trans (List.append_nil _).symm
  | order item => exact (List.append_nil _).symm
  | projection item => rfl
  | documentFilter | documentSort | documentProjection => cases hsql

theorem projections_prepared (select : Select) :
    select.prepared.projections =
      if select.projections = [] then [.wildcard] else select.projections := by
  unfold prepared
  simp only [List.isEmpty_iff]
  split <;> rfl

/-- A statement that projects nothing is written as one that projects every column. -/
theorem compile_prepared (style : PlaceholderStyle) (select : Select) :
    select.prepared.compile style = select.compile style := by
  unfold prepared
  split
  · next hnothing =>
    simp only [compile, written, projectionWritten, hnothing, List.isEmpty_cons, if_true]
    rfl
  · rfl

end Sql.Select

theorem SqlQuery.compile_ensureSelectAll (query : SqlQuery) :
    (QueryTarget.ensureSelectAll query).compile = query.compile := by
  rw [ensureSelectAll_eq]
  exact Sql.Select.compile_prepared _ _

theorem Fragment.items_of_kind_ne {fragment : Fragment} (hkind : fragment.kind ≠ .projection) :
    fragment.items = [] := by
  cases fragment with
  | projection item => exact absurd rfl hkind
  | filter | order | documentFilter | documentSort | documentProjection => rfl

/-! ### One step -/

namespace SqlQuery.Step

variable {composer : Composer} {query : SqlQuery}

theorem connection_run (composer : Composer) (query : SqlQuery) (step : Step) :
    (step.run composer query).query.connection = query.connection := by
  cases step with
  | selectColumns columns => rfl
  | ensureSelectAll => exact (Prod.mk.inj (QueryTarget.setting_ensureSelectAll query)).1
  | operate operation =>
    rw [run, Composer.run_eq]
    cases composer.fragmentFor query operation with
    | error failure => rfl
    | ok fragment => exact (Prod.mk.inj (QueryTarget.setting_extend query fragment)).1

/-- An operation that succeeds adds the items of its fragment. -/
theorem items_operate {operation : Operation} {fragment : Fragment}
    (hfragment : composer.fragmentFor query operation = .ok fragment) :
    (Step.operate operation).items composer query.connection none = fragment.items := by
  have hphrase : composer.phrase query.connection operation = .ok fragment :=
    (Composer.fragmentFor_eq_ok_iff.mp hfragment).1
  have hkind := Composer.kind_fragmentFor hfragment
  cases operation with
  | select selection => simp only [items, hphrase]
  | filter | whereIn | contains | present | orderBy =>
    rw [Fragment.items_of_kind_ne (by simp [hkind, Operation.kind])]
    rfl

theorem items_operate_some (connection : Connection) (operation : Operation)
    (failure : FilterError) :
    (Step.operate operation).items composer connection (some failure) = [] := by
  cases operation <;> rfl

/-- A selection that succeeds adds one item, and this is not the projection of every column. -/
theorem exists_items_select {selection : Text}
    (hanswer : ((Step.operate (.select selection)).run composer query).failure = none) :
    ∃ content resultName,
      (Step.operate (.select selection)).items composer query.connection none =
        [.expression content resultName] := by
  rw [run, Composer.run_eq] at hanswer
  cases hfragment : composer.fragmentFor query (.select selection) with
  | error failure => simp [hfragment] at hanswer
  | ok fragment =>
    rw [items_operate hfragment]
    obtain ⟨extraction, path, request, -, hread, rfl⟩ :=
      Composer.fragmentFor_sqlQuery_eq_ok_iff.mp hfragment
    cases Operation.spells_of_read_eq_ok hread
    exact ⟨_, _, rfl⟩

theorem wildcard_notMem_items (composer : Composer) (query : SqlQuery) (step : Step) :
    .wildcard ∉ step.items composer query.connection (step.run composer query).failure := by
  cases step with
  | ensureSelectAll => exact List.not_mem_nil
  | selectColumns columns =>
    intro hmem
    obtain ⟨column, -, hcolumn⟩ := List.mem_map.mp hmem
    unfold Sql.SelectItem.ofColumnName at hcolumn
    split at hcolumn <;> cases hcolumn
  | operate operation =>
    cases hanswer : ((Step.operate operation).run composer query).failure with
    | some failure =>
      rw [items_operate_some]
      exact List.not_mem_nil
    | none =>
      cases operation with
      | filter | whereIn | contains | present | orderBy => exact List.not_mem_nil
      | select selection =>
        obtain ⟨content, resultName, hitems⟩ := exists_items_select hanswer
        simp [hitems]

/-- A step that does not act has no effect on any query, and adds no items. -/
theorem run_of_not_acts {step : Step}
    (hacts : step.acts (step.run composer query).failure = false) :
    (step.run composer query).query = query ∧
      step.items composer query.connection (step.run composer query).failure = [] := by
  cases step with
  | ensureSelectAll => cases hacts
  | selectColumns columns =>
    obtain rfl : columns = [] := by simpa [acts] using hacts
    exact ⟨by simp [run, SqlQuery.selectColumns], rfl⟩
  | operate operation =>
    simp only [run, Composer.run_eq] at hacts ⊢
    cases hfragment : composer.fragmentFor query operation with
    | error failure => exact ⟨rfl, items_operate_some _ _ _⟩
    | ok fragment => simp [hfragment, acts] at hacts

/-- A step that acts adds its items, behind what is projected already or else behind what it puts
in front. -/
theorem projections_run_of_acts {step : Step}
    (hacts : step.acts (step.run composer query).failure = true) :
    (step.run composer query).query.statement.projections =
      (if query.statement.projections = [] then step.baseline
        else query.statement.projections) ++
      step.items composer query.connection (step.run composer query).failure := by
  cases step with
  | ensureSelectAll =>
    simp only [run, SqlQuery.ensureSelectAll_eq, Sql.Select.projections_prepared]
    exact (List.append_nil _).symm
  | selectColumns columns =>
    simp only [run, SqlQuery.selectColumns, baseline, items]
    split
    · next hnothing => rw [hnothing]
    · rfl
  | operate operation =>
    simp only [run, Composer.run_eq] at hacts ⊢
    cases hfragment : composer.fragmentFor query operation with
    | error failure => simp [hfragment, acts] at hacts
    | ok fragment =>
      have hown : fragment.isSql = true := (Composer.fragmentFor_eq_ok_iff.mp hfragment).2
      simp only [SqlQuery.extend_eq, SqlQuery.extend, Sql.Select.projections_extend hown,
        Sql.Select.projections_prepared, items_operate hfragment, baseline]

/-- A step that acts leaves a query that projects something. -/
theorem projections_run_ne_nil {step : Step}
    (hacts : step.acts (step.run composer query).failure = true) :
    (step.run composer query).query.statement.projections ≠ [] := by
  rw [projections_run_of_acts hacts]
  split
  · cases step with
    | operate | ensureSelectAll => exact List.cons_ne_nil _ _
    | selectColumns columns => simpa [acts, baseline, items] using hacts
  · next hprojects => exact List.append_ne_nil_of_left_ne_nil hprojects _

end SqlQuery.Step

/-! ### Runs -/

namespace Composer

open SqlQuery (Step)

variable (composer : Composer) {query : SqlQuery}

theorem runSteps_cons (query : SqlQuery) (step : Step) (rest : List Step) :
    composer.runSteps query (step :: rest) =
      let outcome := step.run composer query
      ((composer.runSteps outcome.query rest).1,
        (step, outcome.failure) :: (composer.runSteps outcome.query rest).2) := rfl

/-- What every step keeps of a query, a run keeps. -/
theorem runSteps_induction {composer : Composer} (property : SqlQuery → Prop) {steps : List Step}
    (hstep : ∀ step ∈ steps, ∀ query, property query → property (step.run composer query).query)
    {query : SqlQuery} (hquery : property query) : property (composer.runSteps query steps).1 :=
  runEach_induction property hstep hquery

theorem map_fst_runSteps (query : SqlQuery) (steps : List Step) :
    (composer.runSteps query steps).2.map (·.1) = steps :=
  map_fst_runEach query steps

/-- Every answer of a run is that of the step on some query of the same connection. -/
theorem exists_run_of_mem_runSteps {composer : Composer} {query : SqlQuery} {steps : List Step}
    {step : Step} {answer : Option FilterError}
    (hmem : (step, answer) ∈ (composer.runSteps query steps).2) :
    ∃ before : SqlQuery, before.connection = query.connection ∧
      (step.run composer before).failure = answer :=
  exists_of_mem_runEach (·.connection = query.connection) (fun before step hbefore ↦
    (step.connection_run composer before).trans hbefore) rfl hmem

/-- A query that projects something only grows. -/
theorem projections_runSteps_of_ne_nil (hprojects : query.statement.projections ≠ [])
    (steps : List Step) :
    (composer.runSteps query steps).1.statement.projections =
      query.statement.projections ++
        composer.itemsOf query.connection (composer.runSteps query steps).2 := by
  induction steps generalizing query with
  | nil => exact (List.append_nil _).symm
  | cons step rest ih =>
    have hconnection := step.connection_run composer query
    simp only [runSteps_cons, itemsOf, List.flatMap_cons]
    cases hacts : step.acts (step.run composer query).failure with
    | false =>
      obtain ⟨hquery, hitems⟩ := Step.run_of_not_acts hacts
      rw [hquery, hitems, List.nil_append]
      exact ih hprojects
    | true =>
      have hstep := Step.projections_run_of_acts hacts
      rw [if_neg hprojects] at hstep
      rw [ih (Step.projections_run_ne_nil hacts), hstep, hconnection, List.append_assoc]
      rfl

/-- On a query that projects nothing the first step that acts decides the front. -/
theorem projections_runSteps_of_nil (hnothing : query.statement.projections = [])
    (steps : List Step) :
    (composer.runSteps query steps).1.statement.projections =
      (match (composer.runSteps query steps).2.find? fun (step, answer) ↦ step.acts answer with
        | some (first, _) => first.baseline
        | none => []) ++
      composer.itemsOf query.connection (composer.runSteps query steps).2 := by
  induction steps with
  | nil => exact hnothing
  | cons step rest ih =>
    have hconnection := step.connection_run composer query
    simp only [runSteps_cons, itemsOf, List.flatMap_cons, List.find?_cons]
    cases hacts : step.acts (step.run composer query).failure with
    | false =>
      obtain ⟨hquery, hitems⟩ := Step.run_of_not_acts hacts
      rw [hquery, hitems, List.nil_append]
      exact ih
    | true =>
      have hstep := Step.projections_run_of_acts hacts
      rw [if_pos hnothing] at hstep
      rw [composer.projections_runSteps_of_ne_nil (Step.projections_run_ne_nil hacts), hstep,
        hconnection, List.append_assoc]
      rfl

theorem wildcard_notMem_itemsOf (query : SqlQuery) (steps : List Step) :
    .wildcard ∉ composer.itemsOf query.connection (composer.runSteps query steps).2 := by
  intro hmem
  obtain ⟨⟨step, answer⟩, htaken, hitem⟩ := List.mem_flatMap.mp hmem
  obtain ⟨before, hconnection, rfl⟩ := exists_run_of_mem_runSteps htaken
  rw [← hconnection] at hitem
  exact step.wildcard_notMem_items composer before hitem

/-- No step of a run acts if and only if nothing asks for a projection. -/
theorem find?_acts_eq_none_iff (query : SqlQuery) (steps : List Step) :
    (composer.runSteps query steps).2.find? (fun (step, answer) ↦ step.acts answer) = none ↔
      (∀ operation, (.operate operation, none) ∉ (composer.runSteps query steps).2) ∧
      .ensureSelectAll ∉ steps ∧
      composer.itemsOf query.connection (composer.runSteps query steps).2 = [] := by
  rw [List.find?_eq_none, itemsOf, List.flatMap_eq_nil_iff]
  constructor
  · intro hnone
    refine ⟨fun operation hmem ↦ hnone _ hmem rfl, fun hmem ↦ ?_, fun ⟨step, answer⟩ hmem ↦ ?_⟩
    · rw [← composer.map_fst_runSteps query steps] at hmem
      obtain ⟨⟨step, answer⟩, htaken, rfl⟩ := List.mem_map.mp hmem
      exact hnone _ htaken rfl
    · obtain ⟨before, hconnection, rfl⟩ := exists_run_of_mem_runSteps hmem
      have hacts := Bool.eq_false_iff.mpr (hnone _ hmem)
      rw [← hconnection]
      exact (Step.run_of_not_acts hacts).2
  · rintro ⟨hoperations, hensured, hitems⟩ ⟨step, answer⟩ hmem hacts
    cases step with
    | ensureSelectAll =>
      refine hensured ?_
      rw [← composer.map_fst_runSteps query steps]
      exact List.mem_map_of_mem hmem
    | selectColumns columns =>
      have hcolumns := List.map_eq_nil_iff.mp (hitems _ hmem)
      simp [Step.acts, hcolumns] at hacts
    | operate operation =>
      obtain rfl : answer = none := Option.isNone_iff_eq_none.mp hacts
      exact hoperations operation hmem

/-- What a fresh query projects after any steps. Without a step that acts it is nothing. If the
first one that acts projects plain columns, it is the items of the steps, and else these behind the
projection of every column, which is not among them. -/
theorem projections_runSteps_ofTable (composer : Composer) (connection : Connection)
    (dialect : Dialect) (table : Text) (steps : List Step) :
    let query := SqlQuery.ofTable connection dialect table
    let run := composer.runSteps query steps
    let items := composer.itemsOf connection run.2
    let first := run.2.find? fun (step, answer) ↦ step.acts answer
    run.2.map (·.1) = steps ∧
    (run.1.statement.projections =
      match first with
      | none => []
      | some (.selectColumns _, _) => items
      | some _ => .wildcard :: items) ∧
    (first = none ↔
      (∀ operation, (.operate operation, none) ∉ run.2) ∧ .ensureSelectAll ∉ steps ∧
        items = []) ∧
    .wildcard ∉ items ∧
    (∀ selection, (.operate (.select selection), none) ∈ run.2 →
      ∃ content resultName,
        (Step.operate (.select selection)).items composer connection none =
          [.expression content resultName]) ∧
    run.1.compile = (QueryTarget.ensureSelectAll run.1).compile := by
  intro query run items first
  have hnothing : query.statement.projections = [] := rfl
  have hprojections : run.1.statement.projections =
      (match first with | some (step, _) => step.baseline | none => []) ++ items :=
    composer.projections_runSteps_of_nil hnothing steps
  have hnone := composer.find?_acts_eq_none_iff query steps
  refine ⟨composer.map_fst_runSteps query steps, ?_, hnone,
    composer.wildcard_notMem_itemsOf query steps, fun selection hmem ↦ ?_,
    (SqlQuery.compile_ensureSelectAll run.1).symm⟩
  · rw [hprojections]
    cases hfirst : first with
    | none => exact (hnone.mp hfirst).2.2
    | some taken =>
      obtain ⟨step, answer⟩ := taken
      cases step <;> rfl
  · obtain ⟨before, hconnection, hanswer⟩ := exists_run_of_mem_runSteps hmem
    obtain ⟨content, resultName, hitems⟩ := Step.exists_items_select hanswer
    rw [hconnection] at hitems
    exact ⟨content, resultName, hitems⟩

end Composer

end KeyPathQuery
