import KeyPathQuery.Proofs.Composer.DocumentStep
import KeyPathQuery.Proofs.Json.InsertedFields

/-!
What a run leaves in a document query. A fragment adds to one of three lists: clauses and sorts are
kept as they come, and the entries of the projection are inserted one after another
(`foldl_extend_fresh`). The command of the store renders the lists in three ways. Clauses are joined
so that all of them must hold, however many there are and however often they speak of one field.
Sorts and entries become fields that hold each key once, at the place of its first use and with the
content of its last one.

A caller may also add fragments himself, between the operations. They are taken or refused as the
fragments of operations are, so a run is told by the fragments of the steps that succeed
(`runDocumentSteps_eq_foldl`).

Main statement: `command_runDocumentSteps`.
-/

set_option autoImplicit false
set_option relaxedAutoImplicit false

namespace KeyPathQuery

/-! ### Fragments in a document query -/

namespace Fragment

/-- The clause that a fragment adds to a document query. -/
def clause? : Fragment → Option Json.Fields
  | .documentFilter clause => some clause
  | _ => none

/-- The key and the direction that a fragment adds to the sorts of a document query. -/
def sort? : Fragment → Option (Text × Direction)
  | .documentSort key direction => some (key, direction)
  | _ => none

/-- The key and the content that a fragment adds to the projection of a document query. -/
def entry? : Fragment → Option (Text × Json)
  | .documentProjection key content => some (key, content)
  | _ => none

end Fragment

namespace DocumentQuery

/-- Fragments add their clauses and sorts behind those that are there, and insert their entries. -/
theorem foldl_extend_eq (fragments : List Fragment) (query : DocumentQuery) :
    fragments.foldl QueryTarget.extend query =
      { query with
        clauses := query.clauses ++ fragments.filterMap Fragment.clause?
        sorts := query.sorts ++ fragments.filterMap Fragment.sort?
        projection := (fragments.filterMap Fragment.entry?).foldl
          (fun fields (key, content) ↦ fields.insert key content) query.projection } := by
  induction fragments generalizing query with
  | nil => simp
  | cons fragment rest ih =>
    rw [List.foldl_cons, ih, extend_eq]
    cases fragment with
    | filter | order | projection => rfl
    | documentFilter | documentSort | documentProjection =>
      simp [add?, Fragment.clause?, Fragment.sort?, Fragment.entry?, List.filterMap_cons]

/-- A fresh query with fragments added. -/
theorem foldl_extend_fresh (fragments : List Fragment) (connection : Connection)
    (collection : Text) :
    fragments.foldl QueryTarget.extend
        ({ connection := connection, collection := collection } : DocumentQuery) =
      { connection := connection
        collection := collection
        clauses := fragments.filterMap Fragment.clause?
        sorts := fragments.filterMap Fragment.sort?
        projection := .ofPairs (fragments.filterMap Fragment.entry?) } :=
  foldl_extend_eq fragments _

/-! ### Steps -/

/-- One use of a document query by a caller. -/
inductive Step where
  /-- One of the six operations, which may fail. -/
  | operate (operation : Operation)
  /-- A fragment that the caller adds himself. -/
  | add (fragment : Fragment)

namespace Step

/-- The query after a step, and the failure if the step failed. -/
def run (composer : Composer) (query : DocumentQuery) : Step → Outcome DocumentQuery
  | .operate operation => composer.run operation query
  | .add fragment =>
    match QueryTarget.append query fragment with
    | .ok extended => ⟨extended, none⟩
    | .error failure => ⟨query, some failure⟩

/-- The fragment of a step: that of the adapter for an operation, or the caller's own. -/
def fragment? (composer : Composer) (connection : Connection) : Step → Option Fragment
  | .operate operation => (composer.phrase connection operation).toOption
  | .add fragment => some fragment

end Step

end DocumentQuery

namespace Composer

open DocumentQuery (Step)

/-- Takes steps one after another; the last query, and the steps with their answers. -/
def runDocumentSteps (composer : Composer) (query : DocumentQuery) (steps : List Step) :
    DocumentQuery × List (Step × Option FilterError) :=
  runEach (fun query step ↦ step.run composer query) query steps

/-- The fragments that the steps of a run added, in order: those of the steps that succeeded. -/
def addedBy (composer : Composer) (connection : Connection)
    (taken : List (Step × Option FilterError)) : List Fragment :=
  taken.filterMap fun (step, answer) ↦
    if answer.isNone then step.fragment? composer connection else none

end Composer

/-! ### One step -/

namespace DocumentQuery.Step

open QueryTarget

variable {composer : Composer} {query : DocumentQuery}

/-- A step fails and leaves the query as it is, or it adds its fragment, which is a part of document
queries. -/
theorem run_eq_or (composer : Composer) (query : DocumentQuery) (step : Step) :
    (∃ failure, step.run composer query = ⟨query, some failure⟩) ∨
      ∃ fragment, step.fragment? composer query.connection = some fragment ∧
        fragment.isSql = false ∧ step.run composer query = ⟨extend query fragment, none⟩ := by
  cases step with
  | operate operation =>
    rw [run, Composer.run_eq]
    cases hfragment : composer.fragmentFor query operation with
    | error failure => exact .inl ⟨failure, rfl⟩
    | ok fragment =>
      obtain ⟨hphrase, hown⟩ := Composer.fragmentFor_eq_ok_iff.mp hfragment
      have hphrase : composer.phrase query.connection operation = .ok fragment := hphrase
      exact .inr ⟨fragment, by rw [fragment?, hphrase]; rfl, hown, rfl⟩
  | add fragment =>
    cases fragment with
    | filter | order | projection => exact .inl ⟨_, rfl⟩
    | documentFilter | documentSort | documentProjection => exact .inr ⟨_, rfl, rfl, rfl⟩

theorem connection_run (composer : Composer) (query : DocumentQuery) (step : Step) :
    (step.run composer query).query.connection = query.connection := by
  rcases step.run_eq_or composer query with ⟨failure, hrun⟩ | ⟨fragment, -, -, hrun⟩
  · rw [hrun]
  · rw [hrun]
    exact (Prod.mk.inj (setting_extend query fragment)).1

end DocumentQuery.Step

/-! ### Runs -/

namespace Composer

open DocumentQuery (Step)

/-- A run on a fresh document query. -/
theorem runAll_documentQuery (composer : Composer) (connection : Connection) (collection : Text)
    (operations : List Operation) :
    let query := composer.documentQuery connection collection
    let fragments := composer.fragmentsFor query operations
    composer.runAll query operations =
      ({ connection := connection
         collection := collection
         clauses := fragments.filterMap Fragment.clause?
         sorts := fragments.filterMap Fragment.sort?
         projection := .ofPairs (fragments.filterMap Fragment.entry?) },
        operations.map (composer.failure? query)) := by
  intro query fragments
  rw [runAll_eq]
  exact congrArg (·, _) (DocumentQuery.foldl_extend_fresh fragments connection collection)

variable (composer : Composer)

theorem runDocumentSteps_cons (query : DocumentQuery) (step : Step) (rest : List Step) :
    composer.runDocumentSteps query (step :: rest) =
      let outcome := step.run composer query
      ((composer.runDocumentSteps outcome.query rest).1,
        (step, outcome.failure) :: (composer.runDocumentSteps outcome.query rest).2) := rfl

theorem map_fst_runDocumentSteps (query : DocumentQuery) (steps : List Step) :
    (composer.runDocumentSteps query steps).2.map (·.1) = steps :=
  map_fst_runEach query steps

/-- A run adds the fragments of the steps that succeed in it. -/
theorem runDocumentSteps_eq_foldl (query : DocumentQuery) (steps : List Step) :
    (composer.runDocumentSteps query steps).1 =
      (composer.addedBy query.connection (composer.runDocumentSteps query steps).2).foldl
        QueryTarget.extend query := by
  induction steps generalizing query with
  | nil => rfl
  | cons step rest ih =>
    have hconnection := step.connection_run composer query
    simp only [runDocumentSteps_cons, addedBy, List.filterMap_cons]
    rw [ih, hconnection]
    rcases step.run_eq_or composer query with ⟨failure, hrun⟩ | ⟨fragment, hfragment, -, hrun⟩
    · simp only [hrun]
      rfl
    · simp only [hrun, hfragment]
      rfl

/-- Every step that succeeds in a run has a fragment, and this is a part of document queries. -/
theorem exists_fragment_of_mem_runDocumentSteps (query : DocumentQuery) (steps : List Step)
    {step : Step} (hmem : (step, none) ∈ (composer.runDocumentSteps query steps).2) :
    ∃ fragment, step.fragment? composer query.connection = some fragment ∧
      fragment.isSql = false := by
  obtain ⟨before, hconnection, hanswer⟩ :=
    exists_of_mem_runEach (·.connection = query.connection) (fun before step hbefore ↦
      (step.connection_run composer before).trans hbefore) rfl hmem
  rcases step.run_eq_or composer before with ⟨failure, hrun⟩ | ⟨fragment, hfragment, hown, -⟩
  · rw [hrun] at hanswer
    cases hanswer
  · exact ⟨fragment, hconnection ▸ hfragment, hown⟩

end Composer

/-! ### Commands -/

namespace DocumentQuery

/-- The joined clauses hold of what satisfies each of them, wherever `$and` is conjunction and the
empty clause holds of everything. -/
theorem satisfies_filterDocument_iff {δ : Type} {satisfies : Json → δ → Prop}
    (hempty : ∀ document, satisfies (.object []) document)
    (hand : ∀ items document, satisfies (.object [("$and".toList, .array items)]) document ↔
      ∀ item ∈ items, satisfies item document)
    (query : DocumentQuery) (document : δ) :
    satisfies query.filterDocument document ↔
      ∀ clause ∈ query.clauses, satisfies (.object clause) document := by
  unfold filterDocument
  split
  · next hnone => simp [hnone, hempty]
  · next clause hone => simp [hone]
  · rw [hand, List.forall_mem_map]

/-- Sorts are rendered under their keys, with the numbers of their directions. -/
theorem collects_sortDocument (query : DocumentQuery) :
    query.sortDocument.Collects
      (query.sorts.map fun (key, direction) ↦ (key, .integer direction.order)) :=
  Json.Fields.collects_ofPairs _

/-- What a command is made of. -/
theorem command_eq (query : DocumentQuery) :
    query.command =
      .object ([("find".toList, .string query.collection), ("filter".toList, query.filterDocument)] ++
        (if query.sorts = [] then [] else [("sort".toList, .object query.sortDocument)]) ++
        (if query.projection = [] then [] else [("projection".toList, .object query.projection)])) := by
  simp only [command, List.isEmpty_iff]

end DocumentQuery

theorem Json.Fields.ofPairs_eq_nil_iff {pairs : List (Text × Json)} :
    ofPairs pairs = [] ↔ pairs = [] := by
  refine ⟨fun hnone ↦ ?_, fun hnone ↦ by rw [hnone]; rfl⟩
  have hkeys := (collects_ofPairs pairs).keys_eq
  cases pairs with
  | nil => rfl
  | cons pair rest =>
    obtain ⟨name, value⟩ := pair
    simp [hnone, List.eraseDups_cons] at hkeys

namespace Composer

open DocumentQuery (Step)

/-- The command of a fresh document query after any steps. It holds everything that the steps which
succeeded added: each of them added a clause, a sort or an entry of the projection. Clauses are
joined as they came, sorts and entries stand under their keys, and a part of the command is there
exactly if something was added to it. -/
theorem command_runDocumentSteps (composer : Composer) (connection : Connection)
    (collection : Text) (steps : List Step) :
    let query := composer.documentQuery connection collection
    let run := composer.runDocumentSteps query steps
    let added := composer.addedBy connection run.2
    let clauses := added.filterMap Fragment.clause?
    let sorts := added.filterMap Fragment.sort?
    let entries := added.filterMap Fragment.entry?
    run.2.map (·.1) = steps ∧
    (∀ step, (step, none) ∈ run.2 → ∃ fragment,
      step.fragment? composer connection = some fragment ∧ fragment.isSql = false) ∧
    ∃ (condition : Json) (sort projection : Json.Fields),
      run.1.command =
        .object ([("find".toList, .string collection), ("filter".toList, condition)] ++
          (if sorts = [] then [] else [("sort".toList, .object sort)]) ++
          (if entries = [] then [] else [("projection".toList, .object projection)])) ∧
      condition =
        (match clauses with
        | [] => .object []
        | [clause] => .object clause
        | _ => .object [("$and".toList, .array (clauses.map .object))]) ∧
      (∀ {δ : Type} (satisfies : Json → δ → Prop),
        (∀ document, satisfies (.object []) document) →
        (∀ items document, satisfies (.object [("$and".toList, .array items)]) document ↔
          ∀ item ∈ items, satisfies item document) →
        ∀ document, satisfies condition document ↔
          ∀ clause ∈ clauses, satisfies (.object clause) document) ∧
      sort.Collects (sorts.map fun (key, direction) ↦ (key, .integer direction.order)) ∧
      projection.Collects entries := by
  intro query run added clauses sorts entries
  have hrun : run.1 =
      { connection := connection
        collection := collection
        clauses := clauses
        sorts := sorts
        projection := .ofPairs entries } :=
    (composer.runDocumentSteps_eq_foldl _ steps).trans
      (DocumentQuery.foldl_extend_fresh added connection collection)
  have hclauses : run.1.clauses = clauses := congrArg DocumentQuery.clauses hrun
  have hsorts : run.1.sorts = sorts := congrArg DocumentQuery.sorts hrun
  have hprojection : run.1.projection = .ofPairs entries := congrArg DocumentQuery.projection hrun
  refine ⟨composer.map_fst_runDocumentSteps query steps,
    fun step hstep ↦ composer.exists_fragment_of_mem_runDocumentSteps query steps hstep,
    run.1.filterDocument, run.1.sortDocument, run.1.projection, ?_, ?_,
    fun satisfies hempty hand document ↦ ?_, ?_, ?_⟩
  · have hcollection : run.1.collection = collection := congrArg DocumentQuery.collection hrun
    have hnone : run.1.projection = [] ↔ entries = [] := by
      rw [hprojection, Json.Fields.ofPairs_eq_nil_iff]
    rw [DocumentQuery.command_eq, hcollection, hsorts]
    simp only [hnone]
  · rw [← hclauses, DocumentQuery.filterDocument]
    rcases run.1.clauses with _ | ⟨clause, _ | ⟨next, others⟩⟩ <;> rfl
  · rw [← hclauses]
    exact DocumentQuery.satisfies_filterDocument_iff hempty hand run.1 document
  · rw [← hsorts]
    exact run.1.collects_sortDocument
  · rw [hprojection]
    exact Json.Fields.collects_ofPairs entries

end Composer

end KeyPathQuery
