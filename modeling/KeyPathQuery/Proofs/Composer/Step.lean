import KeyPathQuery.Composer

/-!
What one operation does to a query object that has a place for the fragments of one family: the
parts of statements, or the parts of document queries. Dialects phrase operations as fragments of
one family as well. Where the two families are the same the fragment goes in, and where they
differ the query object refuses it; in the second case making sure of a projection changes
nothing, because it is not asked for or because documents need none.

`LawfulTarget` says what such a query object owes, one fact for each of its functions, and from
that `run_eq` says what a step does and `runAll_eq` what a run does: it adds the fragments of the
operations that succeed, and the answers are the failures of the others, each on its own.

Callers do other things with query objects besides. Whatever a step is to them, a run is one step
after another, and what every step keeps the run keeps (`runEach_induction`).
-/

set_option autoImplicit false
set_option relaxedAutoImplicit false

namespace KeyPathQuery

open Phrasing

/-! ### The families of fragments -/

/-- Whether a fragment is a part of a statement. -/
def Fragment.isSql : Fragment → Bool
  | .filter _ | .order _ | .projection _ => true
  | _ => false

theorem Phrasing.Extraction.isSql_phrase (extraction : Extraction) (path : KeyPath)
    (request : Request) : (extraction.phrase path request).isSql = true := by
  cases request <;> rfl

theorem Phrasing.Dotted.not_isSql_phrase {path : KeyPath} {request : Request} {fragment : Fragment}
    (hphrase : Dotted.phrase path request = .ok fragment) : fragment.isSql = false := by
  cases request with
  | compare comparison value =>
    simp only [Dotted.phrase] at hphrase
    split at hphrase
    · obtain rfl := Except.ok.inj hphrase
      rfl
    · cases hphrase
  | select resultName =>
    obtain rfl := Except.ok.inj hphrase
    cases resultName <;> rfl
  | memberOf | contains | present | orderBy =>
    obtain rfl := Except.ok.inj hphrase
    rfl

/-- A dialect phrases requests as parts of statements exactly if it is one of SQL. -/
theorem Dialect.isSql_phrase {dialect : Dialect} {path : KeyPath} {request : Request}
    {fragment : Fragment} (hphrase : dialect.phrase path request = .ok fragment) :
    fragment.isSql = (dialect != .document) := by
  cases dialect with
  | document => exact Dotted.not_isSql_phrase hphrase
  | sqlFunction | sqlOperator | generic =>
    obtain rfl := Except.ok.inj hphrase
    exact Extraction.isSql_phrase _ _ _

/-! ### Query objects of one family -/

namespace QueryTarget

variable {τ : Type} [QueryTarget τ]

/-- What decides how operations on a query are phrased, and how its own failures are labelled. -/
def setting (query : τ) : Connection × Dialect :=
  (connection query, nativeDialect query)

/-- The query with a fragment added, and before a part of a statement with a projection made sure
of; the query itself if it has no place for the fragment. -/
def extend (query : τ) (fragment : Fragment) : τ :=
  (add? (if fragment.isSql then ensureSelectAll query else query) fragment).getD query

end QueryTarget

/-- A query object that takes the fragments of one family and no other ones. -/
class LawfulTarget (τ : Type) [QueryTarget τ] where
  /-- Whether the query object takes the parts of statements; else it takes those of documents. -/
  takesSql : Bool
  isSome_add? (query : τ) (fragment : Fragment) :
    (QueryTarget.add? query fragment).isSome = (fragment.isSql == takesSql)
  /-- A query object for documents projects everything from the start. -/
  ensureSelectAll_of_documents (hdocuments : takesSql = false) (query : τ) :
    QueryTarget.ensureSelectAll query = query
  setting_selectAll (query : τ) :
    QueryTarget.setting (QueryTarget.selectAll query) = QueryTarget.setting query
  setting_add? {query extended : τ} {fragment : Fragment}
    (hadd : QueryTarget.add? query fragment = some extended) :
    QueryTarget.setting extended = QueryTarget.setting query

namespace QueryTarget

variable {τ : Type} [QueryTarget τ] [LawfulTarget τ]

theorem setting_ensureSelectAll (query : τ) : setting (ensureSelectAll query) = setting query := by
  unfold ensureSelectAll
  split
  · exact LawfulTarget.setting_selectAll query
  · rfl

/-- No fragment changes the setting of a query. -/
theorem setting_extend (query : τ) (fragment : Fragment) :
    setting (extend query fragment) = setting query := by
  unfold extend
  split
  · cases hadd : add? (ensureSelectAll query) fragment with
    | none => rfl
    | some extended =>
      exact (LawfulTarget.setting_add? hadd).trans (setting_ensureSelectAll query)
  · cases hadd : add? query fragment with
    | none => rfl
    | some extended => exact LawfulTarget.setting_add? hadd

end QueryTarget

/-! ### One step -/

/-- The failure of a computation, if it fails. -/
def failureOf {α : Type} : Except FilterError α → Option FilterError
  | .ok _ => none
  | .error failure => some failure

section

variable {α : Type} {computation : Except FilterError α}

theorem failureOf_eq_some_iff {failure : FilterError} :
    failureOf computation = some failure ↔ computation = .error failure := by
  cases computation <;> simp [failureOf]

theorem failureOf_eq_none_iff :
    failureOf computation = none ↔ ∃ value, computation = .ok value := by
  cases computation <;> simp [failureOf]

end

namespace Composer

open QueryTarget LawfulTarget

theorem phrase_eq_ok_iff {composer : Composer} {connection : Connection} {operation : Operation}
    {fragment : Fragment} :
    composer.phrase connection operation = .ok fragment ↔
      ∃ path request, operation.read composer.policy = .ok (path, request) ∧
        (composer.adapterFor connection).dialect.phrase path request = .ok fragment := by
  unfold phrase
  cases hread : operation.read composer.policy with
  | error failure => simp [bind, Except.bind]
  | ok read =>
    obtain ⟨path, request⟩ := read
    constructor
    · intro hphrase
      exact ⟨path, request, rfl, hphrase⟩
    · rintro ⟨_, _, hsame, hphrase⟩
      cases hsame
      exact hphrase

/-- Fragments go in behind a projection exactly if they are parts of statements. -/
theorem needsSelectAll_of_phrase {composer : Composer} {connection : Connection}
    {operation : Operation} {fragment : Fragment}
    (hphrase : composer.phrase connection operation = .ok fragment) :
    (composer.adapterFor connection).needsSelectAll = fragment.isSql := by
  obtain ⟨path, request, -, hfragment⟩ := phrase_eq_ok_iff.mp hphrase
  exact (Dialect.isSql_phrase hfragment).symm

variable {τ : Type} [QueryTarget τ] [LawfulTarget τ]

/-- The fragment that an operation adds to a query, or the failure of the operation. -/
def fragmentFor (composer : Composer) (query : τ) (operation : Operation) :
    Except FilterError Fragment := do
  let fragment ← composer.phrase (connection query) operation
  if fragment.isSql = takesSql τ then .ok fragment
  else .error (.inexpressible (nativeDialect query) (.partNotAccepted fragment.part))

theorem fragmentFor_eq_ok_iff {composer : Composer} {query : τ} {operation : Operation}
    {fragment : Fragment} :
    composer.fragmentFor query operation = .ok fragment ↔
      composer.phrase (connection query) operation = .ok fragment ∧
        fragment.isSql = takesSql τ := by
  unfold fragmentFor
  cases composer.phrase (connection query) operation with
  | error failure => simp [bind, Except.bind]
  | ok phrased =>
    simp only [bind, Except.bind, Except.ok.injEq]
    split
    · next hown =>
      rw [Except.ok.injEq, and_iff_left_of_imp]
      rintro rfl
      exact hown
    · next hforeign =>
      simp only [reduceCtorEq, false_iff, not_and]
      rintro rfl
      exact hforeign

/-- The failure of an operation on a query, if it fails. -/
def failure? (composer : Composer) (query : τ) (operation : Operation) : Option FilterError :=
  failureOf (composer.fragmentFor query operation)

/-- The fragments of the operations that succeed on a query, in order. -/
def fragmentsFor (composer : Composer) (query : τ) (operations : List Operation) :
    List Fragment :=
  operations.filterMap fun operation ↦ (composer.fragmentFor query operation).toOption

/-- A query takes every fragment of its family. -/
theorem merge_of_own {adapter : Adapter} {fragment : Fragment}
    (hneeds : adapter.needsSelectAll = fragment.isSql) (hown : fragment.isSql = takesSql τ)
    (query : τ) : merge adapter fragment query = ⟨extend query fragment, none⟩ := by
  unfold merge extend append
  simp only [hneeds]
  have hsome := isSome_add? (if fragment.isSql then ensureSelectAll query else query) fragment
  rw [hown, beq_self_eq_true, Option.isSome_iff_exists, ← hown] at hsome
  obtain ⟨extended, hadd⟩ := hsome
  simp only [hadd, Option.getD_some]

/-- A query refuses every other fragment, and shows no trace of it. -/
theorem merge_of_foreign {adapter : Adapter} {fragment : Fragment}
    (hneeds : adapter.needsSelectAll = fragment.isSql) (hforeign : fragment.isSql ≠ takesSql τ)
    (query : τ) : merge adapter fragment query =
      ⟨query, some (.inexpressible (nativeDialect query) (.partNotAccepted fragment.part))⟩ := by
  have hprepared : (if fragment.isSql then ensureSelectAll query else query) = query := by
    cases hsql : fragment.isSql with
    | false => rfl
    | true =>
      have hdocuments : takesSql τ = false := by
        rw [hsql] at hforeign
        exact Bool.eq_false_iff.mpr hforeign.symm
      exact ensureSelectAll_of_documents hdocuments query
  have hnone : add? query fragment = none := by
    have hsome := isSome_add? query fragment
    rw [beq_eq_false_iff_ne.mpr hforeign] at hsome
    simpa using hsome
  unfold merge append
  simp only [hneeds, hprepared, hnone]

/-- A step leaves the query as it is, or adds a fragment to it. -/
theorem run_eq (composer : Composer) (operation : Operation) (query : τ) :
    composer.run operation query =
      match composer.fragmentFor query operation with
      | .ok fragment => ⟨extend query fragment, none⟩
      | .error failure => ⟨query, some failure⟩ := by
  unfold run fragmentFor
  cases hphrase : composer.phrase (connection query) operation with
  | error failure => rfl
  | ok fragment =>
    have hneeds := needsSelectAll_of_phrase hphrase
    by_cases hown : fragment.isSql = takesSql τ
    · simp only [bind, Except.bind, if_pos hown, merge_of_own hneeds hown]
    · simp only [bind, Except.bind, if_neg hown, merge_of_foreign hneeds hown]

theorem failure_run (composer : Composer) (operation : Operation) (query : τ) :
    (composer.run operation query).failure = composer.failure? query operation := by
  rw [run_eq, failure?]
  cases composer.fragmentFor query operation <;> rfl

theorem mem_fragmentsFor_iff {composer : Composer} {query : τ} {operations : List Operation}
    {fragment : Fragment} :
    fragment ∈ composer.fragmentsFor query operations ↔
      ∃ operation ∈ operations, composer.fragmentFor query operation = .ok fragment := by
  unfold fragmentsFor
  rw [List.mem_filterMap]
  refine exists_congr fun operation ↦ and_congr_right fun _ ↦ ?_
  cases composer.fragmentFor query operation <;> simp [Except.toOption]

/-! ### Runs -/

/-- Queries with one setting answer an operation alike. -/
theorem fragmentFor_congr (composer : Composer) {first second : τ}
    (hsetting : setting first = setting second) :
    composer.fragmentFor first = composer.fragmentFor second := by
  obtain ⟨hconnection, hdialect⟩ := Prod.mk.inj hsetting
  funext operation
  simp only [fragmentFor, hconnection, hdialect]

theorem failure?_congr (composer : Composer) {first second : τ}
    (hsetting : setting first = setting second) :
    composer.failure? first = composer.failure? second := by
  funext operation
  rw [failure?, failure?, composer.fragmentFor_congr hsetting]

section

variable {composer : Composer} {query : τ} {operation : Operation}

theorem failure?_of_error {failure : FilterError}
    (hfragment : composer.fragmentFor query operation = .error failure) :
    composer.failure? query operation = some failure := by
  rw [failure?, hfragment]
  rfl

theorem failure?_of_ok {fragment : Fragment}
    (hfragment : composer.fragmentFor query operation = .ok fragment) :
    composer.failure? query operation = none := by
  rw [failure?, hfragment]
  rfl

theorem fragmentsFor_cons_of_error {failure : FilterError}
    (hfragment : composer.fragmentFor query operation = .error failure) (rest : List Operation) :
    composer.fragmentsFor query (operation :: rest) = composer.fragmentsFor query rest := by
  simp only [fragmentsFor, List.filterMap_cons, hfragment, Except.toOption]

theorem fragmentsFor_cons_of_ok {fragment : Fragment}
    (hfragment : composer.fragmentFor query operation = .ok fragment) (rest : List Operation) :
    composer.fragmentsFor query (operation :: rest) =
      fragment :: composer.fragmentsFor query rest := by
  simp only [fragmentsFor, List.filterMap_cons, hfragment, Except.toOption]

end

/-- A run adds the fragments of the operations that succeed, and the answers are the failures of
the others, each on its own. -/
theorem runAll_eq (composer : Composer) (query : τ) (operations : List Operation) :
    composer.runAll query operations =
      ((composer.fragmentsFor query operations).foldl extend query,
        operations.map (composer.failure? query)) := by
  induction operations generalizing query with
  | nil => rfl
  | cons operation rest ih =>
    rw [runAll, run_eq, List.map_cons]
    cases hfragment : composer.fragmentFor query operation with
    | error failure =>
      rw [fragmentsFor_cons_of_error hfragment, failure?_of_error hfragment]
      simp only [ih]
    | ok fragment =>
      -- No fragment changes the setting, and nothing else decides the rest.
      have hsetting := setting_extend query fragment
      have hfailure := composer.failure?_congr hsetting
      have hrest : composer.fragmentsFor (extend query fragment) rest =
          composer.fragmentsFor query rest := by
        rw [fragmentsFor, fragmentsFor, composer.fragmentFor_congr hsetting]
      rw [fragmentsFor_cons_of_ok hfragment, failure?_of_ok hfragment]
      simp only [ih, hfailure, hrest, List.foldl_cons]

end Composer

/-! ### Runs of any steps -/

section

variable {τ σ : Type}

/-- Takes steps one after another; the last query, and the steps with their answers. -/
def runEach (take : τ → σ → Outcome τ) (query : τ) : List σ → τ × List (σ × Option FilterError)
  | [] => (query, [])
  | step :: rest =>
    let outcome := take query step
    let (last, taken) := runEach take outcome.query rest
    (last, (step, outcome.failure) :: taken)

variable {take : τ → σ → Outcome τ}

theorem map_fst_runEach (query : τ) (steps : List σ) :
    (runEach take query steps).2.map (·.1) = steps := by
  induction steps generalizing query with
  | nil => rfl
  | cons step rest ih => simp only [runEach, List.map_cons, ih]

/-- What every step keeps of a query, a run keeps. -/
theorem runEach_induction (property : τ → Prop) {steps : List σ}
    (hstep : ∀ step ∈ steps, ∀ query, property query → property (take query step).query)
    {query : τ} (hquery : property query) : property (runEach take query steps).1 := by
  induction steps generalizing query with
  | nil => exact hquery
  | cons step rest ih =>
    obtain ⟨hfirst, hrest⟩ := List.forall_mem_cons.mp hstep
    exact ih hrest (hfirst query hquery)

/-- Every answer of a run is that of the step on some query that has what all steps keep. -/
theorem exists_of_mem_runEach (property : τ → Prop)
    (hstep : ∀ query step, property query → property (take query step).query) {query : τ}
    (hquery : property query) {steps : List σ} {step : σ} {answer : Option FilterError}
    (hmem : (step, answer) ∈ (runEach take query steps).2) :
    ∃ before, property before ∧ (take before step).failure = answer := by
  induction steps generalizing query with
  | nil => cases hmem
  | cons first rest ih =>
    rcases List.mem_cons.mp hmem with heq | hrest
    · obtain ⟨rfl, rfl⟩ := Prod.mk.inj heq
      exact ⟨query, hquery, rfl⟩
    · exact ih (hstep query first hquery) hrest

end

end KeyPathQuery
