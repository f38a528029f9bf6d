import KeyPathQuery.Proofs.Composer.DocumentRun
import KeyPathQuery.Proofs.Composer.ValueSeparation
import KeyPathQuery.Proofs.KeyPath.Grammar

/-!
Values from callers stay below the operators of document queries. A store takes a key that starts
with a dollar sign for an operator, and segments of paths and objects among the values may have such
keys. Still, whatever operations are run, each clause has one key that starts as the names of
columns do, and the condition below it has the keys of one of nine conditions; the keys of sorts and
projections start as names too (`Fragment.IsGuarded`). What the values decide lies below the
operators: two runs whose operations differ in nothing but values lead to commands that differ in
nothing but operands (`Command.SameButOperands`).

Both facts are first about the fragment of one request, then about the fragments of a run.

Main statement: `guarded_runAll_and_sameButOperands_command`.
-/

set_option autoImplicit false
set_option relaxedAutoImplicit false

namespace KeyPathQuery

open Phrasing

/-! ### Keys -/

/-- A text starts with a letter of ASCII or an underscore, as the names of columns do. -/
def StartsAsName (text : Text) : Prop :=
  ∃ first rest, text = first :: rest ∧ isIdentifierStart first = true

theorem StartsAsName.append {text : Text} (hstart : StartsAsName text) (suffix : Text) :
    StartsAsName (text ++ suffix) := by
  obtain ⟨first, rest, rfl, hfirst⟩ := hstart
  exact ⟨first, rest ++ suffix, rfl, hfirst⟩

theorem startsAsName_of_isIdentifier {name : Text} (hname : isIdentifier name = true) :
    StartsAsName name := by
  obtain ⟨first, rest, heq, hfirst, -⟩ := isIdentifier_iff.mp hname
  exact ⟨first, rest, heq, hfirst⟩

theorem KeyPath.startsAsName_root (path : KeyPath) : StartsAsName path.root :=
  path.exists_root_eq_cons

/-- A dotted path starts with its root, whatever its segments start with. -/
theorem KeyPath.startsAsName_dotted (path : KeyPath) : StartsAsName path.dotted :=
  path.startsAsName_root.append _

namespace Phrasing.Dotted

/-- The keys of the conditions that a clause may put on a field. -/
def conditionKeys : List (List Text) :=
  [["$eq".toList], ["$ne".toList], ["$lt".toList], ["$lte".toList], ["$gt".toList],
    ["$gte".toList], ["$in".toList], ["$regex".toList, "$options".toList],
    ["$exists".toList, "$ne".toList]]

/-- A clause with one key, which starts as a name, and one of the conditions below it. -/
def IsGuardedClause (clause : Json.Fields) : Prop :=
  ∃ name condition, clause = [(name, .object condition)] ∧ StartsAsName name ∧
    Json.Fields.keys condition ∈ conditionKeys

end Phrasing.Dotted

/-- What a fragment brings into a document query is no operator at a place of names, and one of
the conditions at a place of conditions. -/
def Fragment.IsGuarded : Fragment → Prop
  | .documentFilter clause => Dotted.IsGuardedClause clause
  | .documentSort key _ => StartsAsName key
  | .documentProjection key _ => StartsAsName key
  | .filter _ | .order _ | .projection _ => True

theorem Comparison.documentOperator?_mem {comparison : Comparison} {operator : Text}
    (hoperator : comparison.documentOperator? = some operator) :
    [operator] ∈ Dotted.conditionKeys := by
  cases comparison with
  | other text => cases hoperator
  | equal | notEqual | less | lessOrEqual | greater | greaterOrEqual =>
    obtain rfl := Option.some.inj hoperator
    decide

namespace Phrasing.Dotted

theorem isGuarded_clause (path : KeyPath) {condition : Json.Fields}
    (hkeys : condition.keys ∈ conditionKeys) : (clause path condition).IsGuarded :=
  ⟨path.dotted, condition, rfl, path.startsAsName_dotted, hkeys⟩

/-- The fragment of a request is guarded. A name for the result is an identifier in the requests of
operations. -/
theorem isGuarded_phrase {path : KeyPath} {operation : Operation} {request : Request}
    (hspells : operation.Spells request) {fragment : Fragment}
    (hphrase : phrase path request = .ok fragment) : fragment.IsGuarded := by
  cases hspells with
  | filter path operator value =>
    simp only [phrase] at hphrase
    split at hphrase
    · next operator hoperator =>
      obtain rfl := Except.ok.inj hphrase
      exact isGuarded_clause _ (Comparison.documentOperator?_mem hoperator)
    · cases hphrase
  | whereIn | contains | present =>
    obtain rfl := Except.ok.inj hphrase
    exact isGuarded_clause _ (by simp [conditionKeys])
  | orderBy =>
    obtain rfl := Except.ok.inj hphrase
    exact path.startsAsName_dotted
  | @select _ resultName hname =>
    obtain rfl := Except.ok.inj hphrase
    cases resultName with
    | none => exact path.startsAsName_dotted
    | some name => exact startsAsName_of_isIdentifier (hname name rfl)

end Phrasing.Dotted

namespace Fragment.IsGuarded

variable {fragment : Fragment} (hguarded : fragment.IsGuarded)
include hguarded

theorem isGuardedClause {clause : Json.Fields} (hclause : fragment.clause? = some clause) :
    Dotted.IsGuardedClause clause := by
  cases fragment with
  | documentFilter => rwa [← Option.some.inj hclause]
  | filter | order | projection | documentSort | documentProjection => cases hclause

theorem startsAsName_sort {sort : Text × Direction} (hsort : fragment.sort? = some sort) :
    StartsAsName sort.1 := by
  cases fragment with
  | documentSort => rwa [← Option.some.inj hsort]
  | filter | order | projection | documentFilter | documentProjection => cases hsort

theorem startsAsName_entry {entry : Text × Json} (hentry : fragment.entry? = some entry) :
    StartsAsName entry.1 := by
  cases fragment with
  | documentProjection => rwa [← Option.some.inj hentry]
  | filter | order | projection | documentFilter | documentSort => cases hentry

end Fragment.IsGuarded

theorem Fragment.isGuarded_of_isSql {fragment : Fragment} (hsql : fragment.isSql = true) :
    fragment.IsGuarded := by
  cases fragment with
  | filter | order | projection => trivial
  | documentFilter | documentSort | documentProjection => cases hsql

namespace Composer

/-- The fragment of an operation is guarded, under every adapter. -/
theorem isGuarded_of_phrase {composer : Composer} {connection : Connection}
    {operation : Operation} {fragment : Fragment}
    (hphrase : composer.phrase connection operation = .ok fragment) : fragment.IsGuarded := by
  obtain ⟨path, request, hread, hfragment⟩ := phrase_eq_ok_iff.mp hphrase
  cases hsql : fragment.isSql with
  | true => exact Fragment.isGuarded_of_isSql hsql
  | false =>
    have hdocument : (composer.adapterFor connection).dialect = .document := by
      simpa [hsql] using Dialect.isSql_phrase hfragment
    rw [hdocument] at hfragment
    exact Dotted.isGuarded_phrase (Operation.spells_of_read_eq_ok hread) hfragment

theorem isGuarded_of_mem_fragmentsFor {composer : Composer} {query : DocumentQuery}
    {operations : List Operation} {fragment : Fragment}
    (hmem : fragment ∈ composer.fragmentsFor query operations) : fragment.IsGuarded := by
  obtain ⟨operation, -, hfragment⟩ := List.mem_filterMap.mp hmem
  cases hresult : composer.fragmentFor query operation with
  | error failure => simp [hresult, Except.toOption] at hfragment
  | ok found =>
    obtain rfl : found = fragment := by simpa [hresult, Except.toOption] using hfragment
    exact isGuarded_of_phrase (fragmentFor_eq_ok_iff.mp hresult).1

end Composer

/-! ### Conditions, clauses and commands that differ in operands -/

namespace Phrasing.Dotted

/-- Two conditions with the same keys that differ in nothing but the operand of a comparison, the
members of a list, which are equally many, or the pattern. -/
inductive Condition.SameButOperands : Json.Fields → Json.Fields → Prop
  | compare {comparison : Comparison} {operator : Text}
    (hoperator : comparison.documentOperator? = some operator) (first second : Json) :
    SameButOperands [(operator, first)] [(operator, second)]
  | memberOf (first second : List Json) (hlength : first.length = second.length) :
    SameButOperands [("$in".toList, .array first)] [("$in".toList, .array second)]
  | contains (first second : Text) :
    SameButOperands [("$regex".toList, .string first), ("$options".toList, .string ['i'])]
      [("$regex".toList, .string second), ("$options".toList, .string ['i'])]
  | present :
    SameButOperands [("$exists".toList, .boolean true), ("$ne".toList, .null)]
      [("$exists".toList, .boolean true), ("$ne".toList, .null)]

/-- Two clauses about one field whose conditions differ in nothing but operands. -/
inductive Clause.SameButOperands : Json.Fields → Json.Fields → Prop
  | mk (name : Text) {first second : Json.Fields}
    (hcondition : Condition.SameButOperands first second) :
    SameButOperands [(name, .object first)] [(name, .object second)]

/-- Two filters that join equally many clauses, one or more than one or none, which differ in
nothing but operands. -/
inductive Filter.SameButOperands : Json → Json → Prop
  | none : SameButOperands (.object []) (.object [])
  | one {first second : Json.Fields} (hclause : Clause.SameButOperands first second) :
    SameButOperands (.object first) (.object second)
  | many {first second : List Json.Fields} (hmany : 2 ≤ first.length)
    (hclauses : List.Forall₂ Clause.SameButOperands first second) :
    SameButOperands (.object [("$and".toList, .array (first.map .object))])
      (.object [("$and".toList, .array (second.map .object))])

/-- Two commands that differ in nothing but the operands in their filters. -/
inductive Command.SameButOperands : Json → Json → Prop
  | mk (collection : Text) (rest : Json.Fields) {first second : Json}
    (hfilter : Filter.SameButOperands first second) :
    SameButOperands
      (.object (("find".toList, .string collection) :: ("filter".toList, first) :: rest))
      (.object (("find".toList, .string collection) :: ("filter".toList, second) :: rest))

end Phrasing.Dotted

open Phrasing.Dotted

/-- Two fragments that differ in nothing but operands in a clause, or but the predicate. -/
inductive Fragment.SameButOperands : Fragment → Fragment → Prop
  | filter (first second : Sql.Expression) : SameButOperands (.filter first) (.filter second)
  | documentFilter {first second : Json.Fields} (hclause : Clause.SameButOperands first second) :
    SameButOperands (.documentFilter first) (.documentFilter second)
  | order (item : Sql.OrderItem) : SameButOperands (.order item) (.order item)
  | projection (item : Sql.SelectItem) : SameButOperands (.projection item) (.projection item)
  | documentSort (key : Text) (direction : Direction) :
    SameButOperands (.documentSort key direction) (.documentSort key direction)
  | documentProjection (key : Text) (content : Json) :
    SameButOperands (.documentProjection key content) (.documentProjection key content)

namespace Phrasing

/-- Requests that differ in values lead to clauses that differ in operands, or fail in the same
way. -/
theorem Dotted.phrase_sameButOperands (path : KeyPath) {first second : Request}
    (hsame : first.SameButValues second) :
    SameResult Fragment.SameButOperands (phrase path first) (phrase path second) := by
  have hcompare (comparison : Comparison) (left right : Json) :
      SameResult Fragment.SameButOperands (phrase path (.compare comparison left))
        (phrase path (.compare comparison right)) := by
    simp only [phrase]
    cases hoperator : comparison.documentOperator? with
    | none => exact .error _
    | some operator => exact .ok (.documentFilter (.mk _ (.compare hoperator left right)))
  have hmemberOf {left right : List Json} (hlength : left.length = right.length) :
      SameResult Fragment.SameButOperands (phrase path (.memberOf left))
        (phrase path (.memberOf right)) :=
    .ok (.documentFilter (.mk _ (.memberOf left right hlength)))
  have hcontains (left right : Text) :
      SameResult Fragment.SameButOperands (phrase path (.contains left))
        (phrase path (.contains right)) :=
    .ok (.documentFilter (.mk _ (.contains _ _)))
  cases hsame with
  | compare comparison first second => exact hcompare comparison first second
  | memberOf first second hlength => exact hmemberOf hlength
  | contains first second => exact hcontains first second
  | same =>
    cases first with
    | compare comparison value => exact hcompare comparison value value
    | memberOf values => exact hmemberOf rfl
    | contains search => exact hcontains search search
    | present => exact .ok (.documentFilter (.mk _ .present))
    | orderBy direction => exact .ok (.documentSort _ direction)
    | select resultName => cases resultName <;> exact .ok (.documentProjection _ _)

theorem Extraction.phrase_sameButOperands (extraction : Extraction) (path : KeyPath)
    {first second : Request} (hsame : first.SameButValues second) :
    (extraction.phrase path first).SameButOperands (extraction.phrase path second) := by
  cases hsame with
  | compare | memberOf | contains => exact .filter _ _
  | same =>
    cases first with
    | compare | memberOf | contains | present => exact .filter _ _
    | orderBy => exact .order _
    | select => exact .projection _

end Phrasing

theorem Dialect.phrase_sameButOperands (dialect : Dialect) (path : KeyPath)
    {first second : Request} (hsame : first.SameButValues second) :
    SameResult Fragment.SameButOperands (dialect.phrase path first)
      (dialect.phrase path second) := by
  cases dialect with
  | document => exact Dotted.phrase_sameButOperands path hsame
  | sqlFunction | sqlOperator | generic =>
    exact .ok (Extraction.phrase_sameButOperands _ path hsame)

namespace Fragment.SameButOperands

variable {first second : Fragment}

theorem isSql_eq (hsame : first.SameButOperands second) : first.isSql = second.isSql := by
  cases hsame <;> rfl

theorem part_eq (hsame : first.SameButOperands second) : first.part = second.part := by
  cases hsame <;> rfl

theorem clause? (hsame : first.SameButOperands second) :
    Option.Rel Clause.SameButOperands first.clause? second.clause? := by
  cases hsame with
  | documentFilter hclause => exact .some hclause
  | filter | order | projection | documentSort | documentProjection => exact .none

theorem sort?_eq (hsame : first.SameButOperands second) : first.sort? = second.sort? := by
  cases hsame <;> rfl

theorem entry?_eq (hsame : first.SameButOperands second) : first.entry? = second.entry? := by
  cases hsame <;> rfl

end Fragment.SameButOperands

/-! ### Two runs -/

theorem DocumentQuery.filterDocument_sameButOperands {first second : DocumentQuery}
    (hclauses : List.Forall₂ Clause.SameButOperands first.clauses second.clauses) :
    Filter.SameButOperands first.filterDocument second.filterDocument := by
  unfold filterDocument
  generalize first.clauses = left at hclauses ⊢
  generalize second.clauses = right at hclauses ⊢
  cases hclauses with
  | nil => exact .none
  | cons hclause hrest =>
    cases hrest with
    | nil => exact .one hclause
    | cons hnext hothers =>
      exact .many (Nat.le_add_left 2 _) (.cons hclause (.cons hnext hothers))

theorem DocumentQuery.command_sameButOperands {first second : DocumentQuery}
    (hcollection : first.collection = second.collection)
    (hclauses : List.Forall₂ Clause.SameButOperands first.clauses second.clauses)
    (hsorts : first.sorts = second.sorts) (hprojection : first.projection = second.projection) :
    Command.SameButOperands first.command second.command := by
  unfold command sortDocument
  rw [hcollection, hsorts, hprojection]
  exact .mk _ _ (filterDocument_sameButOperands hclauses)

theorem Fragment.relatesPhrases_sameButOperands : RelatesPhrases SameButOperands :=
  ⟨Dialect.phrase_sameButOperands, SameButOperands.isSql_eq, SameButOperands.part_eq⟩

/-- Parts that fragments have regardless of operands are the same throughout two lists. -/
theorem Fragment.filterMap_eq_of_sameButOperands {α : Type} {part : Fragment → Option α}
    (hpart : ∀ {first second : Fragment}, first.SameButOperands second → part first = part second)
    {first second : List Fragment} (hsame : List.Forall₂ SameButOperands first second) :
    first.filterMap part = second.filterMap part := by
  induction hsame with
  | nil => rfl
  | cons hfragment _ ih => rw [List.filterMap_cons, List.filterMap_cons, hpart hfragment, ih]

namespace Composer

/-- No operators come into document queries from outside. After any operations on a fresh document
query every clause is guarded, and the keys of sorts and projections start as names. Operations that
differ in nothing but values succeed and fail alike, and the commands differ in nothing but
operands, whatever objects the values are. -/
theorem guarded_runAll_and_sameButOperands_command (composer : Composer) (connection : Connection)
    (collection : Text) :
    let run := composer.runAll (composer.documentQuery connection collection)
    (∀ operations,
      (∀ clause ∈ (run operations).1.clauses, IsGuardedClause clause) ∧
      (∀ key ∈ (run operations).1.sortDocument.keys, StartsAsName key) ∧
      ∀ key ∈ (run operations).1.projection.keys, StartsAsName key) ∧
    ∀ first second, List.Forall₂ Operation.SameButValues first second →
      (run first).2 = (run second).2 ∧
      Command.SameButOperands (run first).1.command (run second).1.command := by
  intro run
  have hrun := composer.runAll_documentQuery connection collection
  refine ⟨fun operations ↦ ?_, fun first second hsame ↦ ?_⟩
  · have hguarded : ∀ fragment ∈
        composer.fragmentsFor (composer.documentQuery connection collection) operations,
          fragment.IsGuarded := fun _ ↦ isGuarded_of_mem_fragmentsFor
    simp only [run, hrun, DocumentQuery.sortDocument]
    refine ⟨fun clause hclause ↦ ?_, fun key hkey ↦ ?_, fun key hkey ↦ ?_⟩
    · obtain ⟨fragment, hmem, hclause⟩ := List.mem_filterMap.mp hclause
      exact (hguarded fragment hmem).isGuardedClause hclause
    · obtain ⟨pair, hpair, rfl⟩ := Json.Fields.mem_keys_ofPairs_iff.mp hkey
      obtain ⟨sort, hsort, rfl⟩ := List.mem_map.mp hpair
      obtain ⟨fragment, hmem, hsort⟩ := List.mem_filterMap.mp hsort
      exact (hguarded fragment hmem).startsAsName_sort hsort
    · obtain ⟨entry, hentry, rfl⟩ := Json.Fields.mem_keys_ofPairs_iff.mp hkey
      obtain ⟨fragment, hmem, hentry⟩ := List.mem_filterMap.mp hentry
      exact (hguarded fragment hmem).startsAsName_entry hentry
  · have hfragments := fragmentsFor_related Fragment.relatesPhrases_sameButOperands composer
      (composer.documentQuery connection collection) hsame
    simp only [run, hrun]
    refine ⟨composer.map_failure?_eq _ hsame, DocumentQuery.command_sameButOperands rfl ?_ ?_ ?_⟩
    · exact List.rel_filterMap (fun _ _ hfragment ↦ hfragment.clause?) hfragments
    · exact Fragment.filterMap_eq_of_sameButOperands (fun hfragment ↦ hfragment.sort?_eq) hfragments
    · exact congrArg Json.Fields.ofPairs
        (Fragment.filterMap_eq_of_sameButOperands (fun hfragment ↦ hfragment.entry?_eq) hfragments)

/-- An object that looks like a condition stays an operand, also below a segment that looks like an
operator. -/
theorem guarded_runAll_and_sameButOperands_command_of_operators :
    let run := standard.runAll
      (standard.documentQuery (.ofDriver "mongodb".toList) "users".toList)
    let operations (value : Json) : List Operation :=
      [.filter "meta->$where".toList "=".toList value, .orderBy "id".toList "up".toList,
        .whereIn "meta->tag".toList [value]]
    let plain := operations (.string "x".toList)
    let crafted := operations (.object [("$gt".toList, .string [])])
    List.Forall₂ Operation.SameButValues plain crafted ∧
      Command.SameButOperands (run plain).1.command (run crafted).1.command ∧
      (run crafted).1.clauses =
        [[("meta.$where".toList,
            .object [("$eq".toList, .object [("$gt".toList, .string [])])])],
          [("meta.tag".toList,
            .object [("$in".toList, .array [.object [("$gt".toList, .string [])]])])]] := by
  intro run operations plain crafted
  have hsame : List.Forall₂ Operation.SameButValues plain crafted :=
    .cons (.filter _ _ _ _) (.cons (.orderBy _ _) (.cons (.whereIn _ _ _ rfl) .nil))
  have hrun := guarded_runAll_and_sameButOperands_command standard
    (.ofDriver "mongodb".toList) "users".toList
  exact ⟨hsame, (hrun.2 plain crafted hsame).2, rfl⟩

end Composer

end KeyPathQuery
