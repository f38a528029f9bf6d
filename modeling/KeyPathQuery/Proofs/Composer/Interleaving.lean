import KeyPathQuery.Proofs.Composer.DocumentStep
import KeyPathQuery.Proofs.Composer.Kind
import KeyPathQuery.Proofs.Composer.SqlStep

/-!
Operations of different kinds may change places. Conditions, orders and projections go to places
of their own in a query, and the one thing that all of them touch is the projection of every
column: the first fragment puts it in if nothing was projected before, whichever kind it is of,
and from then on a query projects something (`Select.prepared_insert_prepared`). So two fragments
of different kinds can be added in either order, and an operation that fails adds nothing wherever
it stands.

Two lists that have the same operations of each kind in the same order are the same up to such
changes (`foldl_eq_of_filter_eq`).

Main statement: `runAll_eq_of_sameByKind`.
-/

set_option autoImplicit false
set_option relaxedAutoImplicit false

namespace KeyPathQuery

/-! ### Folds over steps of different kinds -/

section Fold

variable {σ α κ : Type} {step : σ → α → σ} {kind : α → κ}

/-- A step may be taken before steps of other kinds. -/
theorem foldl_append_cons_of_commute
    (hcommute : ∀ state first second, kind first ≠ kind second →
      step (step state first) second = step (step state second) first)
    {before : List α} {item : α} (hbefore : ∀ other ∈ before, kind other ≠ kind item)
    (state : σ) (after : List α) :
    (before ++ item :: after).foldl step state = (item :: (before ++ after)).foldl step state := by
  induction before generalizing state with
  | nil => rfl
  | cons other rest ih =>
    obtain ⟨hother, hrest⟩ := List.forall_mem_cons.mp hbefore
    rw [List.cons_append, List.foldl_cons, ih hrest, List.foldl_cons, hcommute _ _ _ hother]
    rfl

/-- Lists with the same steps of each kind in the same order come to the same end. -/
theorem foldl_eq_of_filter_eq [DecidableEq κ]
    (hcommute : ∀ state first second, kind first ≠ kind second →
      step (step state first) second = step (step state second) first)
    {first second : List α}
    (hsame : ∀ asked, first.filter (kind · = asked) = second.filter (kind · = asked))
    (state : σ) : first.foldl step state = second.foldl step state := by
  induction first generalizing second state with
  | nil =>
    cases second with
    | nil => rfl
    | cons item rest => simpa using hsame (kind item)
  | cons item rest ih =>
    have hitem := hsame (kind item)
    rw [List.filter_cons_of_pos (by simp)] at hitem
    -- The first step of this kind in the other list is the same step, behind steps of other kinds.
    obtain ⟨before, after, rfl, hbefore, -, -⟩ := List.filter_eq_cons_iff.mp hitem.symm
    simp only [decide_eq_true_eq] at hbefore
    rw [foldl_append_cons_of_commute hcommute hbefore, List.foldl_cons, List.foldl_cons]
    apply ih
    intro asked
    have hasked := hsame asked
    rw [List.filter_append, List.filter_cons, List.filter_cons] at hasked
    rw [List.filter_append]
    by_cases hkind : kind item = asked
    · have hnone : before.filter (kind · = asked) = [] := by
        rw [List.filter_eq_nil_iff]
        intro other hmem
        simpa [← hkind] using hbefore other hmem
      simpa [hkind, hnone] using hasked
    · simpa [hkind] using hasked

end Fold

/-! ### Fragments of different kinds -/

/-- The statement with a fragment put in its place, whatever is projected. -/
def Sql.Select.insert (select : Sql.Select) : Fragment → Sql.Select
  | .filter predicate => select.andWhere predicate
  | .order item => { select with ordering := select.ordering ++ [item] }
  | .projection item => { select with projections := select.projections ++ [item] }
  | _ => select

namespace Sql.Select

theorem extend_eq_insert {fragment : Fragment} (hsql : fragment.isSql = true) (select : Select) :
    select.extend fragment = select.prepared.insert fragment := by
  cases fragment with
  | filter | order | projection => rfl
  | documentFilter | documentSort | documentProjection => cases hsql

theorem extend_of_not_isSql {fragment : Fragment} (hdocument : fragment.isSql = false)
    (select : Select) : select.extend fragment = select := by
  cases fragment with
  | filter | order | projection => cases hdocument
  | documentFilter | documentSort | documentProjection => rfl

theorem projections_andWhere (select : Select) (predicate : Expression) :
    (select.andWhere predicate).projections = select.projections := by
  unfold andWhere
  split <;> rfl

theorem projections_prepared_ne_nil (select : Select) : select.prepared.projections ≠ [] := by
  unfold prepared
  split
  · exact List.cons_ne_nil _ _
  · next hprojects => simpa using hprojects

/-- A statement that projects something keeps on projecting something. -/
theorem projections_insert_ne_nil {select : Select} (hprojects : select.projections ≠ [])
    (fragment : Fragment) : (select.insert fragment).projections ≠ [] := by
  cases fragment with
  | filter predicate => rwa [insert, projections_andWhere]
  | projection item => exact List.append_ne_nil_of_left_ne_nil hprojects _
  | order | documentFilter | documentSort | documentProjection => exact hprojects

/-- The projection of every column is put in once, whichever fragment comes first. -/
theorem prepared_insert_prepared (select : Select) (fragment : Fragment) :
    (select.prepared.insert fragment).prepared = select.prepared.insert fragment := by
  have hprojects := projections_insert_ne_nil select.projections_prepared_ne_nil fragment
  rw [prepared, if_neg (by simpa using hprojects)]

theorem insert_comm {first second : Fragment} (hkind : first.kind ≠ second.kind)
    (select : Select) :
    (select.insert first).insert second = (select.insert second).insert first := by
  cases hcondition : select.condition <;> cases first <;> cases second <;>
    first
      | exact absurd rfl hkind
      | simp only [insert, andWhere, hcondition]

theorem extend_comm {first second : Fragment} (hkind : first.kind ≠ second.kind)
    (select : Select) :
    (select.extend first).extend second = (select.extend second).extend first := by
  cases hfirst : first.isSql with
  | false => rw [extend_of_not_isSql hfirst, extend_of_not_isSql hfirst]
  | true =>
    cases hsecond : second.isSql with
    | false => rw [extend_of_not_isSql hsecond, extend_of_not_isSql hsecond]
    | true =>
      simp only [extend_eq_insert hfirst, extend_eq_insert hsecond, prepared_insert_prepared,
        insert_comm hkind]

end Sql.Select

theorem SqlQuery.extend_comm (query : SqlQuery) (first second : Fragment)
    (hkind : first.kind ≠ second.kind) :
    QueryTarget.extend (QueryTarget.extend query first) second =
      QueryTarget.extend (QueryTarget.extend query second) first := by
  simp only [extend_eq, extend, Sql.Select.extend_comm hkind]

theorem DocumentQuery.extend_comm (query : DocumentQuery) (first second : Fragment)
    (hkind : first.kind ≠ second.kind) :
    QueryTarget.extend (QueryTarget.extend query first) second =
      QueryTarget.extend (QueryTarget.extend query second) first := by
  simp only [extend_eq]
  -- Two fragments are of one kind, or go to different places.
  cases first <;> cases second <;>
    first
      | exact absurd rfl hkind
      | rfl

/-! ### Runs -/

/-- The same operations of each kind in the same order, however the kinds are mixed. -/
def Operation.SameByKind (first second : List Operation) : Prop :=
  ∀ kind : Kind, first.filter (·.kind = kind) = second.filter (·.kind = kind)

namespace Composer

/-- The operations of a kind in a run with their answers, in order. -/
def answersOf {τ : Type} [QueryTarget τ] (composer : Composer) (query : τ)
    (operations : List Operation) (kind : Operation.Kind) :
    List (Operation × Option FilterError) :=
  (operations.zip (composer.runAll query operations).2).filter (·.1.kind = kind)

variable {τ : Type} [QueryTarget τ] [LawfulTarget τ]

/-- The fragments of a kind are those of the operations of the kind. -/
theorem filter_kind_fragmentsFor (composer : Composer) (query : τ) (operations : List Operation)
    (kind : Operation.Kind) :
    (composer.fragmentsFor query operations).filter (·.kind = kind) =
      composer.fragmentsFor query (operations.filter (·.kind = kind)) := by
  induction operations with
  | nil => rfl
  | cons operation rest ih =>
    cases hfragment : composer.fragmentFor query operation with
    | error failure =>
      rw [fragmentsFor_cons_of_error hfragment, ih, List.filter_cons]
      split
      · rw [fragmentsFor_cons_of_error hfragment]
      · rfl
    | ok fragment =>
      rw [fragmentsFor_cons_of_ok hfragment, List.filter_cons, ih, List.filter_cons,
        kind_fragmentFor hfragment]
      split
      · rw [fragmentsFor_cons_of_ok hfragment]
      · rfl

theorem answersOf_eq (composer : Composer) (query : τ) (operations : List Operation)
    (kind : Operation.Kind) :
    composer.answersOf query operations kind =
      (operations.filter (·.kind = kind)).map
        fun operation ↦ (operation, composer.failure? query operation) := by
  rw [answersOf, runAll_eq, ← List.map_prod_left_eq_zip, List.filter_map]
  rfl

theorem runAll_eq_of_extend_comm (composer : Composer) {query : τ}
    (hcommute : ∀ (state : τ) (first second : Fragment), first.kind ≠ second.kind →
      QueryTarget.extend (QueryTarget.extend state first) second =
        QueryTarget.extend (QueryTarget.extend state second) first)
    {first second : List Operation} (hsame : Operation.SameByKind first second) :
    (composer.runAll query first).1 = (composer.runAll query second).1 ∧
      composer.answersOf query first = composer.answersOf query second := by
  constructor
  · rw [runAll_eq, runAll_eq]
    apply foldl_eq_of_filter_eq hcommute
    intro kind
    rw [filter_kind_fragmentsFor, filter_kind_fragmentsFor, hsame kind]
  · funext kind
    rw [answersOf_eq, answersOf_eq, hsame kind]

/-- Runs of the same operations of each kind in the same order leave the same query, and each
operation gets the same answer in both. -/
theorem runAll_eq_of_sameByKind (composer : Composer) {first second : List Operation}
    (hsame : Operation.SameByKind first second) :
    (∀ query : SqlQuery,
      (composer.runAll query first).1 = (composer.runAll query second).1 ∧
      composer.answersOf query first = composer.answersOf query second) ∧
    (∀ query : DocumentQuery,
      (composer.runAll query first).1 = (composer.runAll query second).1 ∧
      composer.answersOf query first = composer.answersOf query second) :=
  ⟨fun _ ↦ composer.runAll_eq_of_extend_comm SqlQuery.extend_comm hsame,
    fun _ ↦ composer.runAll_eq_of_extend_comm DocumentQuery.extend_comm hsame⟩

/-- A statement that projects nothing gets its projection of every column from whichever operation
comes first, and the order that fails puts nothing in wherever it stands. -/
theorem runAll_eq_of_sameByKind_of_bare_statement :
    let composer := Composer.standard
    let query := composer.sqlQuery (.ofDriver "mysql".toList) "users".toList
    let projection := Operation.select "meta->name as name".toList
    let condition := Operation.filter "meta->age".toList ">".toList (.integer 18)
    let astray := Operation.orderBy "meta->age".toList "up".toList
    let order := Operation.orderBy "meta->age".toList "asc".toList
    let first := [projection, astray, condition, order]
    let second := [astray, order, condition, projection]
    Operation.SameByKind first second ∧
      (composer.runAll query first).1 = (composer.runAll query second).1 ∧
      composer.answersOf query first .ordering = composer.answersOf query second .ordering ∧
      (composer.runAll query first).2 =
        [none, some (.invalidDirection "up".toList), none, none] ∧
      (composer.runAll query second).2 =
        [some (.invalidDirection "up".toList), none, none, none] := by
  intro composer query projection condition astray order first second
  have hsame : Operation.SameByKind first second := by
    intro kind
    cases kind <;> rfl
  obtain ⟨hquery, hanswers⟩ := (composer.runAll_eq_of_sameByKind hsame).1 query
  exact ⟨hsame, hquery, congrFun hanswers .ordering, by decide, by decide⟩

end Composer

end KeyPathQuery
