import KeyPathQuery.Proofs.Composer.BoundValues
import Mathlib.Data.List.Forall2

/-!
Values from callers stay out of the text of statements. Take two runs of operations on a fresh
SQL query that differ in nothing but the values, the members of lists and the texts to search
for. Then the same operations succeed, the others fail in the same way, and the two statements
have the same text; the values are told apart by the bindings alone.

One run is compared with the other at every stage, as far as a stage has values in it: requests
(`Request.SameButValues`), fragments (`Fragment.Alike`), statements (`Select.Alike`). Since a
text in the style of a store is the text of a template whose slots are blank, statements that
are alike have one text (`Select.Alike.compile_sql`).

Main statement: `compile_sql_runAll_of_sameButValues`.
-/

set_option autoImplicit false
set_option relaxedAutoImplicit false

namespace KeyPathQuery

open Sql Phrasing

/-! ### Operations, requests and fragments that differ in values -/

/-- Two operations that differ in nothing but the value, the members of the list, which are
equally many, or the text to search for. -/
inductive Operation.SameButValues : Operation → Operation → Prop
  | filter (path operator : Text) (first second : Json) :
    SameButValues (.filter path operator first) (.filter path operator second)
  | whereIn (path : Text) (first second : List Json) (hlength : first.length = second.length) :
    SameButValues (.whereIn path first) (.whereIn path second)
  | contains (path first second : Text) :
    SameButValues (.contains path first) (.contains path second)
  | present (path : Text) : SameButValues (.present path) (.present path)
  | orderBy (path direction : Text) :
    SameButValues (.orderBy path direction) (.orderBy path direction)
  | select (selection : Text) : SameButValues (.select selection) (.select selection)

/-- Two requests that differ in nothing but values. -/
inductive Request.SameButValues : Request → Request → Prop
  | compare (comparison : Comparison) (first second : Json) :
    SameButValues (.compare comparison first) (.compare comparison second)
  | memberOf (first second : List Json) (hlength : first.length = second.length) :
    SameButValues (.memberOf first) (.memberOf second)
  | contains (first second : Text) : SameButValues (.contains first) (.contains second)
  | same (request : Request) : SameButValues request request

/-- Two fragments that differ in nothing but values. -/
inductive Fragment.Alike : Fragment → Fragment → Prop
  | filter {first second : Expression}
    (hblank : first.template.blank = second.template.blank) : Alike (.filter first) (.filter second)
  | documentFilter (first second : Json.Fields) :
    Alike (.documentFilter first) (.documentFilter second)
  | same (fragment : Fragment) : Alike fragment fragment

/-- Two results that are related, or the same failure twice. -/
inductive SameResult {α : Type} (related : α → α → Prop) :
    Except FilterError α → Except FilterError α → Prop
  | ok {first second : α} (hrelated : related first second) :
    SameResult related (.ok first) (.ok second)
  | error (failure : FilterError) : SameResult related (.error failure) (.error failure)

namespace SameResult

variable {α β : Type} {related : α → α → Prop} {related' : β → β → Prop}

theorem refl (hrefl : ∀ value, related value value) (result : Except FilterError α) :
    SameResult related result result := by
  cases result with
  | error failure => exact .error failure
  | ok value => exact .ok (hrefl value)

/-- Steps that keep results related, taken one after the other, keep them related. -/
theorem bind {first second : Except FilterError α} {left right : α → Except FilterError β}
    (hsame : SameResult related first second)
    (hnext : ∀ a b, related a b → SameResult related' (left a) (right b)) :
    SameResult related' (first >>= left) (second >>= right) := by
  cases hsame with
  | error failure => exact .error failure
  | ok hrelated => exact hnext _ _ hrelated

theorem toOption {first second : Except FilterError α} (hsame : SameResult related first second) :
    Option.Rel related first.toOption second.toOption := by
  cases hsame with
  | ok hrelated => exact .some hrelated
  | error failure => exact .none

theorem failureOf_eq {first second : Except FilterError α}
    (hsame : SameResult related first second) : failureOf first = failureOf second := by
  cases hsame <;> rfl

end SameResult

/-! ### From operations to fragments -/

theorem Operation.SameButValues.pathText_eq {first second : Operation}
    (hsame : first.SameButValues second) : first.pathText = second.pathText := by
  cases hsame <;> rfl

theorem isEmpty_eq_of_length_eq {α : Type} {first second : List α}
    (hlength : first.length = second.length) : first.isEmpty = second.isEmpty := by
  rw [Bool.eq_iff_iff, List.isEmpty_iff_length_eq_zero, List.isEmpty_iff_length_eq_zero, hlength]

theorem Operation.SameButValues.request {first second : Operation}
    (hsame : first.SameButValues second) (policy : EmptyListPolicy) :
    SameResult Request.SameButValues (first.request policy) (second.request policy) := by
  cases hsame with
  | filter path operator first second => exact .ok (.compare _ first second)
  | whereIn path first second hlength =>
    simp only [Operation.request, isEmpty_eq_of_length_eq hlength]
    split
    · exact .error _
    · exact .ok (.memberOf first second hlength)
  | contains path first second => exact .ok (.contains first second)
  | present | orderBy | select => exact SameResult.refl .same _

theorem Operation.SameButValues.read {first second : Operation}
    (hsame : first.SameButValues second) (policy : EmptyListPolicy) :
    SameResult (fun left right ↦ left.1 = right.1 ∧ left.2.SameButValues right.2)
      (first.read policy) (second.read policy) := by
  rw [read_eq, read_eq, hsame.pathText_eq]
  apply SameResult.bind (SameResult.refl (fun _ ↦ Eq.refl _) _)
  rintro path _ rfl
  apply (hsame.request policy).bind
  intro left right hrequest
  exact .ok ⟨rfl, hrequest⟩

theorem Sql.Expression.blank_binary (target : Expression) (operator : BinaryOperator)
    (first second : Json) : (binary target operator (.bind first)).template.blank =
      (binary target operator (.bind second)).template.blank := by
  simp [template, Template.blank, Piece.blank]

theorem Sql.Expression.blank_textContains (target : Expression) (first second : Text) :
    (textContains target first).template.blank = (textContains target second).template.blank := by
  simp [textContains, template, Template.blank, Piece.blank]

theorem Sql.Expression.blank_memberOf (target : Expression) {first second : List Json}
    (hlength : first.length = second.length) :
    (memberOf target first).template.blank = (memberOf target second).template.blank := by
  have hblanks (list : List Json) :
      ((list.map bind).map template).map Template.blank =
        List.replicate list.length [.slot .null] := by
    simp [Function.comp_def, template, Template.blank, Piece.blank]
  unfold memberOf
  rw [isEmpty_eq_of_length_eq hlength]
  split_ifs with hsecond
  · rfl
  · simp only [template, templateList_eq_map, Template.blank_append, Template.blank_cons,
      Template.blank_join, hblanks, hlength]

theorem Dialect.Extracts.blank_compare {dialect : Dialect} {extraction : Extraction}
    (hextracts : dialect.Extracts extraction) (target : Expression) (comparison : Comparison)
    (first second : Json) :
    (extraction.compare target comparison first).template.blank =
      (extraction.compare target comparison second).template.blank := by
  cases hextracts with
  | sqlFunction => exact Expression.blank_binary target _ first second
  | sqlOperator => exact Expression.blank_binary target _ first second
  | generic => exact Expression.blank_textContains target _ _

/-- A SQL dialect phrases requests that differ in values alike. -/
theorem Dialect.Extracts.phrase_alike {dialect : Dialect} {extraction : Extraction}
    (hextracts : dialect.Extracts extraction) (path : KeyPath) {first second : Request}
    (hsame : first.SameButValues second) :
    (extraction.phrase path first).Alike (extraction.phrase path second) := by
  cases hsame with
  | compare comparison first second => exact .filter (hextracts.blank_compare _ _ _ _)
  | memberOf first second hlength => exact .filter (Expression.blank_memberOf _ hlength)
  | contains first second => exact .filter (Expression.blank_textContains _ _ _)
  | same request => exact .same _

/-- So does the dialect of documents, which fails for one request exactly if it does for the
other. -/
theorem Phrasing.Dotted.phrase_alike (path : KeyPath) {first second : Request}
    (hsame : first.SameButValues second) :
    SameResult Fragment.Alike (Dotted.phrase path first) (Dotted.phrase path second) := by
  cases hsame with
  | compare comparison first second =>
    simp only [Dotted.phrase]
    cases comparison.documentOperator? with
    | none => exact .error _
    | some operator => exact .ok (.documentFilter _ _)
  | memberOf first second hlength => exact .ok (.documentFilter _ _)
  | contains first second => exact .ok (.documentFilter _ _)
  | same request => exact SameResult.refl .same _

theorem Dialect.phrase_alike (dialect : Dialect) (path : KeyPath) {first second : Request}
    (hsame : first.SameButValues second) :
    SameResult Fragment.Alike (dialect.phrase path first) (dialect.phrase path second) := by
  by_cases hsql : (dialect != .document) = true
  · obtain ⟨extraction, hextracts⟩ := exists_extracts hsql
    rw [hextracts.phrase_eq, hextracts.phrase_eq]
    exact .ok (hextracts.phrase_alike path hsame)
  · obtain rfl : dialect = .document := by simpa using hsql
    exact Dotted.phrase_alike path hsame

theorem Fragment.Alike.isSql_eq {first second : Fragment} (halike : first.Alike second) :
    first.isSql = second.isSql := by
  cases halike <;> rfl

theorem Fragment.Alike.part_eq {first second : Fragment} (halike : first.Alike second) :
    first.part = second.part := by
  cases halike <;> rfl

/-- A relation between fragments that is kept by what differs in nothing but values: all dialects
phrase requests as related fragments, and related fragments go in at the same place. -/
structure Fragment.RelatesPhrases (related : Fragment → Fragment → Prop) : Prop where
  phrase (dialect : Dialect) (path : KeyPath) {first second : Request}
    (hsame : first.SameButValues second) :
    SameResult related (dialect.phrase path first) (dialect.phrase path second)
  isSql_eq {first second : Fragment} (hrelated : related first second) :
    first.isSql = second.isSql
  part_eq {first second : Fragment} (hrelated : related first second) : first.part = second.part

theorem Fragment.relatesPhrases_alike : RelatesPhrases Alike :=
  ⟨Dialect.phrase_alike, Alike.isSql_eq, Alike.part_eq⟩

namespace Composer

variable {τ : Type} [QueryTarget τ] [LawfulTarget τ] {related : Fragment → Fragment → Prop}

/-- Operations that differ in values add related fragments, or fail in the same way. -/
theorem fragmentFor_related (hrelates : Fragment.RelatesPhrases related) (composer : Composer)
    (query : τ) {first second : Operation} (hsame : first.SameButValues second) :
    SameResult related (composer.fragmentFor query first) (composer.fragmentFor query second) := by
  have hphrase : SameResult related (composer.phrase (QueryTarget.connection query) first)
      (composer.phrase (QueryTarget.connection query) second) := by
    apply (hsame.read composer.policy).bind
    rintro ⟨path, request⟩ ⟨_, other⟩ ⟨rfl, hrequest⟩
    exact hrelates.phrase _ path hrequest
  apply hphrase.bind
  intro left right hfragment
  rw [hrelates.isSql_eq hfragment, hrelates.part_eq hfragment]
  split
  · exact .ok hfragment
  · exact .error _

theorem fragmentsFor_related (hrelates : Fragment.RelatesPhrases related) (composer : Composer)
    (query : τ) {first second : List Operation}
    (hsame : List.Forall₂ Operation.SameButValues first second) :
    List.Forall₂ related (composer.fragmentsFor query first)
      (composer.fragmentsFor query second) :=
  List.rel_filterMap (R := Operation.SameButValues) (fun _ _ hoperation ↦
    (fragmentFor_related hrelates composer query hoperation).toOption) hsame

/-- Runs of operations that differ in values get the same answers. -/
theorem map_failure?_eq (composer : Composer) (query : τ) {first second : List Operation}
    (hsame : List.Forall₂ Operation.SameButValues first second) :
    first.map (composer.failure? query) = second.map (composer.failure? query) := by
  induction hsame with
  | nil => rfl
  | cons hoperation _ ih =>
    rw [List.map_cons, List.map_cons, ih, failure?, failure?,
      (fragmentFor_related Fragment.relatesPhrases_alike composer query hoperation).failureOf_eq]

end Composer

/-! ### From fragments to statements -/

namespace Sql.Select

/-- Two statements that differ in nothing but the values in the condition. -/
structure Alike (first second : Select) : Prop where
  projections : first.projections = second.projections
  tables : first.tables = second.tables
  condition : first.condition.map (·.template.blank) = second.condition.map (·.template.blank)
  ordering : first.ordering = second.ordering

theorem Alike.refl (select : Select) : select.Alike select :=
  ⟨rfl, rfl, rfl, rfl⟩

variable {first second : Select}

theorem Alike.prepared (halike : first.Alike second) : first.prepared.Alike second.prepared := by
  unfold Select.prepared
  rw [halike.projections]
  by_cases hempty : second.projections.isEmpty = true
  · rw [if_pos hempty, if_pos hempty]
    exact ⟨rfl, halike.tables, halike.condition, halike.ordering⟩
  · rw [if_neg hempty, if_neg hempty]
    exact halike

theorem Alike.andWhere (halike : first.Alike second) {left right : Expression}
    (hblank : left.template.blank = right.template.blank) :
    (first.andWhere left).Alike (second.andWhere right) := by
  have hcondition := halike.condition
  unfold Select.andWhere
  cases hfirst : first.condition with
  | none =>
    cases hsecond : second.condition with
    | none =>
      exact ⟨halike.projections, halike.tables, congrArg some hblank, halike.ordering⟩
    | some existing => simp [hfirst, hsecond] at hcondition
  | some existing =>
    cases hsecond : second.condition with
    | none => simp [hfirst, hsecond] at hcondition
    | some other =>
      rw [hfirst, hsecond] at hcondition
      have hexisting : existing.template.blank = other.template.blank :=
        Option.some.inj hcondition
      refine ⟨halike.projections, halike.tables, ?_, halike.ordering⟩
      simp [Expression.template, hexisting, hblank]

/-- Fragments that are alike keep statements alike. -/
theorem Alike.extend (halike : first.Alike second) {left right : Fragment}
    (hfragment : left.Alike right) : (first.extend left).Alike (second.extend right) := by
  have hprepared := halike.prepared
  cases hfragment with
  | filter hblank => exact hprepared.andWhere hblank
  | documentFilter => exact halike
  | same =>
    cases left with
    | filter predicate => exact hprepared.andWhere rfl
    | order item =>
      exact ⟨hprepared.projections, hprepared.tables, hprepared.condition,
        congrArg (· ++ [item]) hprepared.ordering⟩
    | projection item =>
      exact ⟨congrArg (· ++ [item]) hprepared.projections, hprepared.tables,
        hprepared.condition, hprepared.ordering⟩
    | documentFilter | documentSort | documentProjection => exact halike

theorem Alike.blank_conditionTemplate (halike : first.Alike second) :
    first.conditionTemplate.map Template.blank = second.conditionTemplate.map Template.blank := by
  have hcondition := halike.condition
  unfold conditionTemplate
  cases hfirst : first.condition with
  | none =>
    cases hsecond : second.condition with
    | none => rfl
    | some existing => simp [hfirst, hsecond] at hcondition
  | some existing =>
    cases hsecond : second.condition with
    | none => simp [hfirst, hsecond] at hcondition
    | some other =>
      rw [hfirst, hsecond] at hcondition
      have hexisting : existing.template.blank = other.template.blank :=
        Option.some.inj hcondition
      simp [hexisting]

/-- Statements that are alike have one template up to the values. -/
theorem Alike.blank_template (halike : first.Alike second) :
    first.template.blank = second.template.blank := by
  unfold template projectionTemplate tablesTemplate orderingTemplate
  simp only [Template.blank_join, List.map_cons, List.map_append, halike.blank_conditionTemplate,
    halike.projections, halike.tables, halike.ordering]

/-- Statements that are alike have one text in the style of a store. -/
theorem Alike.compile_sql (halike : first.Alike second) (dialect : Dialect) :
    (first.compile (.ofDialect dialect)).sql = (second.compile (.ofDialect dialect)).sql := by
  unfold compile
  rw [written_eq, written_eq, ← Template.write_sql_blank, halike.blank_template,
    Template.write_sql_blank]

end Sql.Select

theorem SqlQuery.foldl_extend_alike {first second : List Fragment}
    (hfragments : List.Forall₂ Fragment.Alike first second) {left right : SqlQuery}
    (halike : left.statement.Alike right.statement) :
    (first.foldl extend left).statement.Alike (second.foldl extend right).statement := by
  induction hfragments generalizing left right with
  | nil => exact halike
  | cons hfragment _ ih => exact ih (halike.extend hfragment)

/-! ### Two runs -/

namespace Composer

theorem bindings_compile_sqlQuery (composer : Composer) (connection : Connection) (table : Text)
    (operations : List Operation) :
    ((composer.runAll (composer.sqlQuery connection table) operations).1.compile).bindings =
      boundByRun (composer.adapterFor connection).dialect operations
        (composer.runAll (composer.sqlQuery connection table) operations).2 := by
  rw [SqlQuery.bindings_compile, values_runAll composer _ ⟨rfl, rfl⟩ operations]
  rfl

/-- Two runs on a fresh SQL query whose operations differ in nothing but values have the same
answers and the same SQL text, and the bindings of either are the values of its own operations
that succeeded, in the order of the calls. -/
theorem compile_sql_runAll_of_sameButValues (composer : Composer) (connection : Connection)
    (table : Text) {first second : List Operation}
    (hsame : List.Forall₂ Operation.SameButValues first second) :
    let dialect := (composer.adapterFor connection).dialect
    let left := composer.runAll (composer.sqlQuery connection table) first
    let right := composer.runAll (composer.sqlQuery connection table) second
    left.2 = right.2 ∧ left.1.compile.sql = right.1.compile.sql ∧
      left.1.compile.bindings = boundByRun dialect first left.2 ∧
      right.1.compile.bindings = boundByRun dialect second right.2 := by
  intro dialect left right
  refine ⟨?_, ?_, bindings_compile_sqlQuery composer connection table first,
    bindings_compile_sqlQuery composer connection table second⟩
  · simp only [left, right, runAll_sqlQuery]
    exact map_failure?_eq composer _ hsame
  · simp only [left, right, runAll_sqlQuery, SqlQuery.compile, SqlQuery.dialect_foldl_extend]
    exact (SqlQuery.foldl_extend_alike
      (fragmentsFor_related Fragment.relatesPhrases_alike composer _ hsame)
      (Select.Alike.refl _)).compile_sql _

/-- Values that look like SQL change nothing, next to an operation that fails. -/
theorem compile_sql_runAll_of_values_like_sql :
    let query := standard.sqlQuery (.ofDriver "mysql".toList) "users".toList
    let operations (name search : Text) : List Operation :=
      [.whereIn "meta->name".toList [.string name, .null], .orderBy "id".toList "up".toList,
        .contains "meta->note".toList search]
    let first := operations "x".toList "y".toList
    let second := operations "') OR ('1' = '1".toList "; --".toList
    List.Forall₂ Operation.SameButValues first second ∧
      (standard.runAll query first).1.compile.sql = (standard.runAll query second).1.compile.sql ∧
      (standard.runAll query second).1.compile.bindings =
        [.string "') OR ('1' = '1".toList, .null, .string "%; --%".toList] := by
  intro query operations first second
  have hsame : List.Forall₂ Operation.SameButValues first second :=
    .cons (.whereIn _ _ _ rfl) (.cons (.orderBy _ _) (.cons (.contains _ _ _) .nil))
  have hrun := compile_sql_runAll_of_sameButValues standard (.ofDriver "mysql".toList)
    "users".toList hsame
  have hbound : boundByRun .sqlFunction second (standard.runAll query second).2 =
      [.string "') OR ('1' = '1".toList, .null, .string "%; --%".toList] := by rfl
  exact ⟨hsame, hrun.2.1, hrun.2.2.2.trans hbound⟩

end Composer

end KeyPathQuery
