import KeyPathQuery.Proofs.Composer.FailureOrder
import KeyPathQuery.Query.ForeignQuery

/-!
Query objects that take no fragment. Operations on them always fail, and there is one thing that a
failing operation may do to them: before a part of a statement is refused, the query object is made
to project something. An operation that is itself at fault leaves the query object alone
(`run_of_faultOf_eq_some`), and every other one is refused, after a projection was made sure of if
the dialect is one of SQL (`run_of_bare`).

What happens to a query object is seen by one that counts (`Counted`): it does all that the query
object inside does, and keeps the number of times it was made to project every column. As long as
operations are at fault themselves nothing changes (`fst_runAll_of_faults`), so it is the first
other operation that has every column projected; from then on something is projected, and nothing
changes any more (`fst_runAll_of_settled`).

Main statement: `runAll_of_bare`.
-/

set_option autoImplicit false
set_option relaxedAutoImplicit false

namespace KeyPathQuery

open QueryTarget

/-! ### Query objects that take nothing -/

/-- A query object that takes no fragment. Its failures name the generic dialect, and it projects
something once it was made to project every column. -/
class BareTarget (τ : Type) [QueryTarget τ] : Prop where
  add?_eq_none (query : τ) (fragment : Fragment) : add? query fragment = none
  nativeDialect_eq (query : τ) : nativeDialect query = .generic
  projects_selectAll (query : τ) : projectionIsEmpty (selectAll query) = false

instance : BareTarget ForeignQuery where
  add?_eq_none _ _ := rfl
  nativeDialect_eq _ := rfl
  projects_selectAll _ := rfl

variable {τ : Type} [QueryTarget τ]

/-- A query object and the number of times it was made to project every column. -/
structure Counted (τ : Type) where
  query : τ
  calls : Nat
deriving DecidableEq, Repr

/-- A query object that was not made to project anything yet. -/
def Counted.start (query : τ) : Counted τ :=
  ⟨query, 0⟩

instance : QueryTarget (Counted τ) where
  connection counted := connection counted.query
  projectionIsEmpty counted := projectionIsEmpty counted.query
  selectAll counted := ⟨selectAll counted.query, counted.calls + 1⟩
  add? counted fragment :=
    (add? counted.query fragment).map fun extended ↦ ⟨extended, counted.calls⟩
  nativeDialect counted := nativeDialect counted.query

instance [BareTarget τ] : BareTarget (Counted τ) where
  add?_eq_none counted fragment := by
    change (add? counted.query fragment).map _ = none
    rw [BareTarget.add?_eq_none, Option.map_none]
  nativeDialect_eq counted := BareTarget.nativeDialect_eq counted.query
  projects_selectAll counted := BareTarget.projects_selectAll counted.query

/-! ### Counting changes nothing -/

theorem add?_counted (counted : Counted τ) (fragment : Fragment) :
    add? counted fragment =
      (add? counted.query fragment).map fun extended ↦ ⟨extended, counted.calls⟩ :=
  rfl

theorem connection_counted (counted : Counted τ) : connection counted = connection counted.query :=
  rfl

theorem query_ensureSelectAll (counted : Counted τ) :
    (ensureSelectAll counted).query = ensureSelectAll counted.query := by
  unfold ensureSelectAll
  change (if projectionIsEmpty counted.query then _ else _ : Counted τ).query = _
  split <;> rfl

namespace Composer

theorem merge_counted (adapter : Adapter) (fragment : Fragment) (counted : Counted τ) :
    merge adapter fragment counted.query =
      ⟨(merge adapter fragment counted).query.query, (merge adapter fragment counted).failure⟩ := by
  have hprepared :
      (if adapter.needsSelectAll then ensureSelectAll counted.query else counted.query) =
        (if adapter.needsSelectAll then ensureSelectAll counted else counted).query := by
    split
    · exact (query_ensureSelectAll counted).symm
    · rfl
  unfold merge append
  rw [hprepared]
  generalize (if adapter.needsSelectAll then ensureSelectAll counted else counted) = prepared
  dsimp only
  rw [add?_counted]
  cases add? prepared.query fragment <;> rfl

theorem run_counted (composer : Composer) (operation : Operation) (counted : Counted τ) :
    composer.run operation counted.query =
      ⟨(composer.run operation counted).query.query, (composer.run operation counted).failure⟩ := by
  unfold run
  rw [connection_counted]
  cases composer.phrase (connection counted.query) operation with
  | error failure => rfl
  | ok fragment => exact merge_counted _ fragment counted

/-- A query object that counts goes through a run as the query object inside does. -/
theorem runAll_counted (composer : Composer) (operations : List Operation) (counted : Counted τ) :
    composer.runAll counted.query operations =
      ((composer.runAll counted operations).1.query, (composer.runAll counted operations).2) := by
  induction operations generalizing counted with
  | nil => rfl
  | cons operation rest ih =>
    rw [runAll, runAll, run_counted]
    dsimp only
    rw [ih]

/-! ### Operations that are at fault themselves -/

/-- What is wrong with an operation itself, in the dialect of the adapter of a query. -/
def faultOf (composer : Composer) (query : τ) (operation : Operation) : Option FilterError :=
  operation.ownFailure? composer.policy (composer.adapterFor (connection query)).dialect

/-- An operation that is itself at fault leaves the query alone, whatever the query takes. -/
theorem run_of_faultOf_eq_some {composer : Composer} {query : τ} {operation : Operation}
    {failure : FilterError} (hfault : composer.faultOf query operation = some failure) :
    composer.run operation query = ⟨query, some failure⟩ := by
  rw [faultOf, ← failureOf_phrase] at hfault
  rw [run, failureOf_eq_some_iff.mp hfault]

theorem fst_runAll_append (composer : Composer) (before after : List Operation) (query : τ) :
    (composer.runAll query (before ++ after)).1 =
      (composer.runAll (composer.runAll query before).1 after).1 := by
  induction before generalizing query with
  | nil => rfl
  | cons operation rest ih => exact ih _

/-- A run of operations each of which leaves the query alone leaves it alone. -/
theorem fst_runAll_of_fixed {composer : Composer} {query : τ} {operations : List Operation}
    (hfixed : ∀ operation ∈ operations, (composer.run operation query).query = query) :
    (composer.runAll query operations).1 = query := by
  induction operations with
  | nil => rfl
  | cons operation rest ih =>
    obtain ⟨hfirst, hrest⟩ := List.forall_mem_cons.mp hfixed
    rw [runAll, hfirst]
    exact ih hrest

theorem fst_runAll_of_faults {composer : Composer} (query : τ) {operations : List Operation}
    (hfaults : ∀ operation ∈ operations, composer.faultOf query operation ≠ none) :
    (composer.runAll query operations).1 = query := by
  refine fst_runAll_of_fixed fun operation hmem ↦ ?_
  obtain ⟨failure, hfault⟩ := Option.ne_none_iff_exists'.mp (hfaults operation hmem)
  rw [run_of_faultOf_eq_some hfault]

/-! ### Steps and runs with a query object that takes nothing -/

variable [BareTarget τ]

theorem merge_of_bare (adapter : Adapter) (fragment : Fragment) (query : τ) :
    merge adapter fragment query =
      ⟨if adapter.needsSelectAll then ensureSelectAll query else query,
        some (.inexpressible .generic (.partNotAccepted fragment.part))⟩ := by
  unfold merge append
  simp only [BareTarget.add?_eq_none, BareTarget.nativeDialect_eq]

/-- An operation that is not itself at fault is refused, after a projection was made sure of if the
dialect is one of SQL. -/
theorem run_of_bare {composer : Composer} (query : τ) {operation : Operation}
    (hfault : composer.faultOf query operation = none) :
    let ofStatement := (composer.adapterFor (connection query)).needsSelectAll
    composer.run operation query =
      ⟨if ofStatement then ensureSelectAll query else query,
        some (.inexpressible .generic (.partNotAccepted (operation.kind.part ofStatement)))⟩ := by
  rw [faultOf, ← failureOf_phrase] at hfault
  obtain ⟨fragment, hphrase⟩ := failureOf_eq_none_iff.mp hfault
  obtain ⟨path, request, hread, hfragment⟩ := phrase_eq_ok_iff.mp hphrase
  have hkind := Dialect.kind_phrase (Operation.spells_of_read_eq_ok hread) hfragment
  rw [run, hphrase]
  simp only [merge_of_bare, Fragment.part_eq, hkind, needsSelectAll_of_phrase hphrase]

theorem failure_run_ne_none (composer : Composer) (operation : Operation) (query : τ) :
    (composer.run operation query).failure ≠ none := by
  cases hfault : composer.faultOf query operation with
  | none => simp [run_of_bare query hfault]
  | some failure => simp [run_of_faultOf_eq_some hfault]

/-- A query object that projects something already, or whose dialect is that of documents, is left
alone by every operation. -/
theorem query_run_of_settled {composer : Composer} (query : τ)
    (hsettled : projectionIsEmpty query = false ∨
      (composer.adapterFor (connection query)).dialect = .document) (operation : Operation) :
    (composer.run operation query).query = query := by
  cases hfault : composer.faultOf query operation with
  | some failure => rw [run_of_faultOf_eq_some hfault]
  | none =>
    rw [run_of_bare query hfault]
    rcases hsettled with hprojects | hdocument
    · simp [ensureSelectAll, hprojects]
    · simp [Adapter.needsSelectAll, hdocument]

theorem fst_runAll_of_settled {composer : Composer} (query : τ)
    (hsettled : projectionIsEmpty query = false ∨
      (composer.adapterFor (connection query)).dialect = .document)
    (operations : List Operation) : (composer.runAll query operations).1 = query :=
  fst_runAll_of_fixed fun operation _ ↦ query_run_of_settled query hsettled operation

theorem ne_none_of_mem_runAll (composer : Composer) (operations : List Operation) (query : τ) :
    ∀ answer ∈ (composer.runAll query operations).2, answer ≠ none := by
  induction operations generalizing query with
  | nil => simp [runAll]
  | cons operation rest ih =>
    exact List.forall_mem_cons.mpr ⟨composer.failure_run_ne_none operation query, ih _⟩

/-- What a run leaves of a query object that takes nothing, with the number of times it was made to
project every column. -/
inductive LeavesBare (composer : Composer) (query : τ) : List Operation → Counted τ → Prop where
  /-- It is never made to project anything. -/
  | untouched {operations : List Operation}
      (hnever : projectionIsEmpty query = false ∨
        (composer.adapterFor (connection query)).dialect = .document ∨
        ∀ operation ∈ operations, composer.faultOf query operation ≠ none) :
      LeavesBare composer query operations (.start query)
  /-- It is made to project every column at the first operation that is not itself at fault, which
  is refused all the same. -/
  | projected {before after : List Operation} {operation : Operation}
      (hempty : projectionIsEmpty query = true)
      (hdialect : (composer.adapterFor (connection query)).dialect ≠ .document)
      (hbefore : ∀ earlier ∈ before, composer.faultOf query earlier ≠ none)
      (hsound : composer.faultOf query operation = none)
      (hreached : (composer.runAll (Counted.start query) before).1 = .start query)
      (hrefused : composer.run operation (Counted.start query) =
        ⟨⟨selectAll query, 1⟩,
          some (.inexpressible .generic (.partNotAccepted (operation.kind.part true)))⟩) :
      LeavesBare composer query (before ++ operation :: after) ⟨selectAll query, 1⟩

/-- Where nothing is projected and the dialect is one of SQL, the first operation that is not
itself at fault has every column projected. -/
theorem run_start_of_sound {composer : Composer} {query : τ} {operation : Operation}
    (hempty : projectionIsEmpty query = true)
    (hdialect : (composer.adapterFor (connection query)).dialect ≠ .document)
    (hsound : composer.faultOf query operation = none) :
    composer.run operation (Counted.start query) =
      ⟨⟨selectAll query, 1⟩,
        some (.inexpressible .generic (.partNotAccepted (operation.kind.part true)))⟩ := by
  have hneeds : (composer.adapterFor (connection (Counted.start query))).needsSelectAll = true :=
    bne_iff_ne.mpr hdialect
  have hprepared : ensureSelectAll (Counted.start query) = ⟨selectAll query, 1⟩ := if_pos hempty
  rw [run_of_bare (Counted.start query) hsound, hneeds, if_pos rfl, hprepared]

theorem leavesBare_runAll (composer : Composer) (query : τ) (operations : List Operation) :
    composer.LeavesBare query operations (composer.runAll (Counted.start query) operations).1 := by
  by_cases hsettled : projectionIsEmpty query = false ∨
      (composer.adapterFor (connection query)).dialect = .document
  · rw [fst_runAll_of_settled (Counted.start query) hsettled]
    exact .untouched (hsettled.imp_right .inl)
  rw [not_or, Bool.not_eq_false] at hsettled
  obtain ⟨hempty, hdialect⟩ := hsettled
  cases hfirst : operations.find? (composer.faultOf query · = none) with
  | none =>
    have hfaults : ∀ operation ∈ operations, composer.faultOf query operation ≠ none := by
      simpa using hfirst
    rw [fst_runAll_of_faults (Counted.start query) hfaults]
    exact .untouched (.inr (.inr hfaults))
  | some operation =>
    obtain ⟨hfound, before, after, rfl, hearlier⟩ := List.find?_eq_some_iff_append.mp hfirst
    have hsound : composer.faultOf query operation = none := of_decide_eq_true hfound
    have hbefore : ∀ earlier ∈ before, composer.faultOf query earlier ≠ none := by
      simpa using hearlier
    have hreached := fst_runAll_of_faults (Counted.start query) hbefore
    have hrefused := run_start_of_sound hempty hdialect hsound
    -- Something is projected from here on.
    have hprojects : projectionIsEmpty (⟨selectAll query, 1⟩ : Counted τ) = false :=
      BareTarget.projects_selectAll query
    have hlast : (composer.runAll (Counted.start query) (before ++ operation :: after)).1 =
        ⟨selectAll query, 1⟩ := by
      rw [fst_runAll_append, hreached, runAll, hrefused]
      exact fst_runAll_of_settled _ (.inl hprojects) after
    rw [hlast]
    exact .projected hempty hdialect hbefore hsound hreached hrefused

/-- What operations do to a query object that takes no fragment: each of them fails; those that are
at fault themselves leave it alone; and it is made to project every column at most once, at the
first operation that is not at fault itself, and never if it projects something from the start or
its dialect is that of documents. -/
theorem runAll_of_bare (composer : Composer) (query : τ) (operations : List Operation) :
    let last := composer.runAll (Counted.start query) operations
    composer.runAll query operations = (last.1.query, last.2) ∧
      (∀ answer ∈ last.2, answer ≠ none) ∧
      (∀ operation (reached : Counted τ) failure,
        composer.faultOf reached operation = some failure →
          composer.run operation reached = ⟨reached, some failure⟩) ∧
      composer.LeavesBare query operations last.1 :=
  ⟨composer.runAll_counted operations (.start query),
    composer.ne_none_of_mem_runAll operations (Counted.start query),
    fun _ _ _ hfault ↦ run_of_faultOf_eq_some hfault, composer.leavesBare_runAll query operations⟩

/-- Two operations that are at fault themselves, one that is not and after which every column is
projected, and two that leave it at that. -/
theorem runAll_of_bare_of_mixed_operations :
    let composer : Composer := { policy := .reject }
    let query : ForeignQuery := ⟨.ofDriver "pgsql".toList, false, 0⟩
    let operations : List Operation := [.present "meta->->age".toList,
      .whereIn "meta->age".toList [], .filter "meta->age".toList "~".toList (.integer 18),
      .orderBy "meta->age".toList "up".toList, .select "meta->age".toList]
    composer.LeavesBare query operations ⟨selectAll query, 1⟩ ∧
      (composer.runAll (Counted.start query) operations).2 =
        [some (.malformedPath "meta->->age".toList (.emptySegment 1)),
          some (.emptyValueList "meta->age".toList),
          some (.inexpressible .generic (.partNotAccepted .rawFilter)),
          some (.invalidDirection "up".toList),
          some (.inexpressible .generic (.partNotAccepted .rawProjection))] := by
  intro composer query operations
  have hlast : (composer.runAll (Counted.start query) operations).1 = ⟨selectAll query, 1⟩ := by
    decide
  have hleaves := (composer.runAll_of_bare query operations).2.2.2
  rw [hlast] at hleaves
  exact ⟨hleaves, by decide⟩

end Composer

end KeyPathQuery
