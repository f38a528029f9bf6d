import KeyPathQuery.Proofs.Composer.DocumentStep
import KeyPathQuery.Proofs.Composer.Kind
import KeyPathQuery.Proofs.Composer.SqlStep

/-!
Which operations fail, and how. Four things are asked of an operation, one after the other, and
the first one that is not given is the failure: that its path is a key path, that its argument is
in order, that the dialect of the connection has its operator, and that the query object takes
the parts of that dialect. The first three are a matter of the operation alone
(`Operation.ownFailure?`), the last one of the dialect and the query object alone.

A computation with several steps fails by the first step that fails (`failureOf_bind`), so the
order of the failures is the order of the steps, and each step is looked at by itself.

Main statement: `failure_run_eq`.
-/

set_option autoImplicit false
set_option relaxedAutoImplicit false

namespace KeyPathQuery

/-! ### What may be wrong with an operation -/

namespace Operation

/-- The failure of an operation whose path is no key path. -/
def pathFailure? (operation : Operation) : Option FilterError :=
  match KeyPath.parse operation.pathText with
  | .ok _ => none
  | .error defect => some (.malformedPath operation.pathText defect)

/-- The failure of an operation whose argument is not in order: a list without values that has to
have some, a text that names no direction, or a name that is no identifier. -/
def argumentFailure? (policy : EmptyListPolicy) : Operation → Option FilterError
  | .whereIn path [] => if policy = .reject then some (.emptyValueList path) else none
  | .orderBy _ direction =>
    if direction.trim.asciiLowerCase ∈ ["asc".toList, "desc".toList] then none
    else some (.invalidDirection direction)
  | .select selection =>
    (Selection.parts selection).2.bind fun name ↦
      if isIdentifier name then none else some (.invalidAlias name)
  | _ => none

/-- The failure of a filter whose operator is not recognised, where documents are searched. -/
def operatorFailure? (dialect : Dialect) : Operation → Option FilterError
  | .filter _ operator _ =>
    if dialect = .document ∧ operator.trim ∉ Comparison.spellings then
      some (.inexpressible .document (.noDocumentOperator (.other operator.trim)))
    else none
  | _ => none

/-- The failure of an operation in a dialect before any query object has a say. -/
def ownFailure? (policy : EmptyListPolicy) (dialect : Dialect) (operation : Operation) :
    Option FilterError :=
  (operation.pathFailure?.or (operation.argumentFailure? policy)).or
    (operation.operatorFailure? dialect)

end Operation

/-! ### The failures of the steps -/

/-- A computation fails by its first step, and else by its second one. -/
theorem failureOf_bind {α β : Type} {first : Except FilterError α}
    {second : α → Except FilterError β} {failure : Option FilterError}
    (hsecond : ∀ value, first = .ok value → failureOf (second value) = failure) :
    failureOf (first >>= second) = (failureOf first).or failure := by
  cases first with
  | error refusal => rfl
  | ok value => exact hsecond value rfl

theorem Direction.isSome_ofText?_iff {text : Text} :
    (ofText? text).isSome = true ↔ text.trim.asciiLowerCase ∈ ["asc".toList, "desc".toList] := by
  rw [List.mem_cons, List.mem_singleton]
  unfold ofText?
  by_cases hascending : text.trim.asciiLowerCase = "asc".toList
  · simp [hascending]
  · by_cases hdescending : text.trim.asciiLowerCase = "desc".toList
    · simp [hdescending]
    · simp only [hascending, hdescending, if_false, or_self, Option.isSome_none,
        Bool.false_eq_true]

theorem Comparison.parse_of_notMem {operator : Text} (hoperator : operator.trim ∉ spellings) :
    parse operator = .other operator.trim := by
  simp only [spellings, List.mem_cons, List.not_mem_nil, or_false, not_or] at hoperator
  simp only [parse, ofTrimmed, hoperator, or_self, if_false]

/-- Documents have an operator for every comparison that is recognised. -/
theorem Comparison.isSome_documentOperator?_parse {operator : Text}
    (hoperator : operator.trim ∈ spellings) :
    (parse operator).documentOperator?.isSome = true := by
  have hspellings : ∀ text ∈ spellings, (ofTrimmed text).documentOperator?.isSome = true := by
    decide
  exact hspellings _ hoperator

namespace Operation

theorem failureOf_readPath (operation : Operation) :
    failureOf (KeyPath.read operation.pathText) = operation.pathFailure? := by
  unfold KeyPath.read pathFailure?
  cases KeyPath.parse operation.pathText <;> rfl

theorem failureOf_request (policy : EmptyListPolicy) (operation : Operation) :
    failureOf (operation.request policy) = operation.argumentFailure? policy := by
  cases operation with
  | filter | contains | present => rfl
  | whereIn path values =>
    cases values with
    | nil => cases policy <;> rfl
    | cons value rest => rfl
  | orderBy path text =>
    simp only [request, argumentFailure?, ← Direction.isSome_ofText?_iff]
    cases Direction.ofText? text <;> rfl
  | select selection =>
    simp only [request, argumentFailure?]
    cases (Selection.parts selection).2 with
    | none => rfl
    | some name => cases hname : isIdentifier name <;> simp [hname, failureOf]

theorem failureOf_read (policy : EmptyListPolicy) (operation : Operation) :
    failureOf (operation.read policy) =
      operation.pathFailure?.or (operation.argumentFailure? policy) := by
  rw [read_eq, ← failureOf_readPath, ← failureOf_request]
  apply failureOf_bind
  intro path hpath
  cases operation.request policy <;> rfl

/-- The dialects of SQL phrase every operation, and documents all but the filters whose operator is
not recognised. -/
theorem Spells.failureOf_phrase {operation : Operation} {request : Request}
    (hspells : operation.Spells request) (dialect : Dialect) (path : KeyPath) :
    failureOf (dialect.phrase path request) = operation.operatorFailure? dialect := by
  cases dialect with
  | sqlFunction | sqlOperator | generic => cases hspells <;> rfl
  | document =>
    cases hspells with
    | whereIn | contains | present | orderBy | select => rfl
    | filter text operator value =>
      simp only [Dialect.phrase, Phrasing.Dotted.phrase, operatorFailure?, true_and]
      by_cases hoperator : operator.trim ∈ Comparison.spellings
      · obtain ⟨sign, hsign⟩ :=
          Option.isSome_iff_exists.mp (Comparison.isSome_documentOperator?_parse hoperator)
        simp only [hsign, hoperator, not_true_eq_false, if_false]
        rfl
      · simp only [Comparison.parse_of_notMem hoperator, hoperator, not_false_eq_true, if_true]
        rfl

theorem operatorFailure?_of_ne_document {dialect : Dialect} (hdialect : dialect ≠ .document)
    (operation : Operation) : operation.operatorFailure? dialect = none := by
  cases operation with
  | filter path operator value => exact if_neg fun hfault ↦ hdialect hfault.1
  | whereIn | contains | present | orderBy | select => rfl

/-- No path and no argument is inexpressible; only operators are. -/
theorem operatorFailure?_of_ownFailure? {policy : EmptyListPolicy} {dialect native : Dialect}
    {obstacle : Obstacle} {operation : Operation}
    (hown : operation.ownFailure? policy dialect = some (.inexpressible native obstacle)) :
    operation.operatorFailure? dialect = some (.inexpressible native obstacle) := by
  have hpath : operation.pathFailure? ≠ some (.inexpressible native obstacle) := by
    unfold pathFailure?
    split <;> simp
  have hargument : operation.argumentFailure? policy ≠ some (.inexpressible native obstacle) := by
    unfold argumentFailure?
    split
    · split <;> simp
    · split <;> simp
    · simp only [ne_eq, Option.bind_eq_some_iff, not_exists, not_and]
      intro name hname
      split <;> simp
    · simp
  unfold ownFailure? at hown
  rcases Option.or_eq_some_iff.mp hown with hread | ⟨-, hoperator⟩
  · rcases Option.or_eq_some_iff.mp hread with hfault | ⟨-, hfault⟩
    · exact absurd hfault hpath
    · exact absurd hfault hargument
  · exact hoperator

end Operation

namespace Composer

theorem failureOf_phrase (composer : Composer) (connection : Connection) (operation : Operation) :
    failureOf (composer.phrase connection operation) =
      operation.ownFailure? composer.policy (composer.adapterFor connection).dialect := by
  unfold phrase Operation.ownFailure?
  rw [← Operation.failureOf_read]
  apply failureOf_bind
  rintro ⟨path, request⟩ hread
  exact (Operation.spells_of_read_eq_ok hread).failureOf_phrase _ path

variable {τ : Type} [QueryTarget τ] [LawfulTarget τ]

/-- An operation fails by itself, and else if its dialect and the query object are of two
families. -/
theorem failure_run_eq_or (composer : Composer) (operation : Operation) (query : τ) :
    (composer.run operation query).failure =
      (operation.ownFailure? composer.policy
        (composer.adapterFor (QueryTarget.connection query)).dialect).or
        (if (composer.adapterFor (QueryTarget.connection query)).needsSelectAll =
            LawfulTarget.takesSql τ then none
        else some (.inexpressible (QueryTarget.nativeDialect query) (.partNotAccepted
          (operation.kind.part
            (composer.adapterFor (QueryTarget.connection query)).needsSelectAll)))) := by
  rw [failure_run, failure?, fragmentFor, ← failureOf_phrase]
  apply failureOf_bind
  intro fragment hphrase
  obtain ⟨path, request, hread, hfragment⟩ := phrase_eq_ok_iff.mp hphrase
  have hkind := Dialect.kind_phrase (Operation.spells_of_read_eq_ok hread) hfragment
  rw [Fragment.part_eq, hkind, needsSelectAll_of_phrase hphrase]
  by_cases hown : fragment.isSql = LawfulTarget.takesSql τ
  · rw [if_pos hown, if_pos hown]
    rfl
  · rw [if_neg hown, if_neg hown]
    rfl

theorem failure_run_of_own {composer : Composer} (query : τ)
    (hown : (composer.adapterFor (QueryTarget.connection query)).needsSelectAll =
      LawfulTarget.takesSql τ) (operation : Operation) :
    (composer.run operation query).failure =
      operation.ownFailure? composer.policy
        (composer.adapterFor (QueryTarget.connection query)).dialect := by
  rw [failure_run_eq_or, if_pos hown, Option.or_none]

theorem failure_run_of_foreign {composer : Composer} (query : τ) {ofStatement : Bool}
    (hneeds : (composer.adapterFor (QueryTarget.connection query)).needsSelectAll = ofStatement)
    (hforeign : ofStatement ≠ LawfulTarget.takesSql τ) (operation : Operation) :
    (composer.run operation query).failure =
      (operation.ownFailure? composer.policy
        (composer.adapterFor (QueryTarget.connection query)).dialect).or
        (some (.inexpressible (QueryTarget.nativeDialect query)
          (.partNotAccepted (operation.kind.part ofStatement)))) := by
  rw [failure_run_eq_or, hneeds, if_neg hforeign]

/-- Whether an operation fails, and how: by its path, else by its argument, else by its operator,
else because the query object does not take the parts of the dialect. On a query object of the kind
that the dialect asks for, dialects can express every operation but a filter of documents whose
operator is not recognised. -/
theorem failure_run_eq (composer : Composer) (operation : Operation) :
    (∀ query : SqlQuery,
      let dialect := (composer.adapterFor query.connection).dialect
      (composer.run operation query).failure =
        (operation.ownFailure? composer.policy dialect).or
          (if dialect = .document then
            some (.inexpressible query.dialect (.partNotAccepted (operation.kind.part false)))
          else none) ∧
      (dialect ≠ .document → ∀ native obstacle,
        (composer.run operation query).failure ≠ some (.inexpressible native obstacle))) ∧
    (∀ query : DocumentQuery,
      let dialect := (composer.adapterFor query.connection).dialect
      (composer.run operation query).failure =
        (operation.ownFailure? composer.policy dialect).or
          (if dialect = .document then none
          else some (.inexpressible .document (.partNotAccepted (operation.kind.part true)))) ∧
      (dialect = .document → ∀ native obstacle,
        (composer.run operation query).failure = some (.inexpressible native obstacle) →
          operation.operatorFailure? .document = some (.inexpressible native obstacle))) := by
  constructor
  · intro query dialect
    by_cases hdocument : dialect = .document
    · have hneeds : (composer.adapterFor query.connection).needsSelectAll = false :=
        bne_eq_false_iff_eq.mpr hdocument
      rw [if_pos hdocument]
      exact ⟨failure_run_of_foreign query hneeds Bool.false_ne_true operation,
        fun hsql ↦ absurd hdocument hsql⟩
    · have hneeds : (composer.adapterFor query.connection).needsSelectAll = true :=
        bne_iff_ne.mpr hdocument
      have hfailure : (composer.run operation query).failure =
          operation.ownFailure? composer.policy dialect := failure_run_of_own query hneeds operation
      rw [if_neg hdocument, Option.or_none]
      refine ⟨hfailure, fun _ native obstacle hinexpressible ↦ ?_⟩
      rw [hfailure] at hinexpressible
      have hoperator := Operation.operatorFailure?_of_ownFailure? hinexpressible
      rw [operation.operatorFailure?_of_ne_document hdocument] at hoperator
      cases hoperator
  · intro query dialect
    by_cases hdocument : dialect = .document
    · have hneeds : (composer.adapterFor query.connection).needsSelectAll = false :=
        bne_eq_false_iff_eq.mpr hdocument
      have hfailure : (composer.run operation query).failure =
          operation.ownFailure? composer.policy dialect := failure_run_of_own query hneeds operation
      rw [if_pos hdocument, Option.or_none]
      refine ⟨hfailure, fun _ native obstacle hinexpressible ↦ ?_⟩
      rw [hfailure, hdocument] at hinexpressible
      exact Operation.operatorFailure?_of_ownFailure? hinexpressible
    · have hneeds : (composer.adapterFor query.connection).needsSelectAll = true :=
        bne_iff_ne.mpr hdocument
      rw [if_neg hdocument]
      exact ⟨failure_run_of_foreign query hneeds Bool.false_ne_true.symm operation,
        fun hsame ↦ absurd hsame hdocument⟩

/-- An operator that is not recognised is a matter of documents only, and no matter at all if the
path is at fault. -/
theorem failure_run_eq_of_unknown_operator :
    let composer := Composer.standard
    let statement := composer.sqlQuery (.ofDriver "mysql".toList) "users".toList
    let search := composer.documentQuery (.ofDriver "mongodb".toList) "users".toList
    let operation := Operation.filter "meta->age".toList " ~ ".toList (.integer 18)
    let astray := Operation.filter "meta->->age".toList " ~ ".toList (.integer 18)
    (∀ native obstacle,
        (composer.run operation statement).failure ≠ some (.inexpressible native obstacle)) ∧
      (composer.run operation search).failure =
        some (.inexpressible .document (.noDocumentOperator (.other "~".toList))) ∧
      operation.operatorFailure? .document =
        some (.inexpressible .document (.noDocumentOperator (.other "~".toList))) ∧
      (composer.run astray search).failure =
        some (.malformedPath "meta->->age".toList (.emptySegment 1)) := by
  intro composer statement search operation astray
  have hsearch : (composer.run operation search).failure =
      some (.inexpressible .document (.noDocumentOperator (.other "~".toList))) := by decide
  have hstatement := ((composer.failure_run_eq operation).1 statement).2 (by decide)
  have hoperator := ((composer.failure_run_eq operation).2 search).2 (by decide) _ _ hsearch
  exact ⟨hstatement, hsearch, hoperator, by decide⟩

end Composer

end KeyPathQuery
