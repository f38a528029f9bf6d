import KeyPathQuery.Proofs.Composer.Reading
import KeyPathQuery.Proofs.Composer.SqlStep
import KeyPathQuery.Proofs.Sql.PlainExpression

/-!
The shape of the fragments that operations add to a statement. As long as the operator of a
comparison is one of the recognised ones, predicates are conjuncts and all else is plain, for
whatever texts and values a caller gives.

The characters of a key path are what carries this. A root is made of identifiers, so it may
stand as code; a segment may hold hyphens and dollar signs, and every dialect that has segments
puts them into literals.

Main statements: `Dialect.Extracts.isPlain_phrase` for one request and
`Composer.isPlain_fragmentsFor` for the operations of a run.
-/

set_option autoImplicit false
set_option relaxedAutoImplicit false

namespace KeyPathQuery

open Sql Phrasing

/-! ### Recognised operators -/

/-- An operation whose comparison operator, if it has one, is recognised. -/
def Operation.HasSpelledOperator : Operation → Prop
  | .filter _ operator _ => operator.trim ∈ Comparison.spellings
  | _ => True

/-- A request whose comparison has an operator in SQL and whose name is an identifier, as far as it
has them. -/
def Request.IsPlain : Request → Prop
  | .compare comparison _ => (sqlOperator comparison).isNamed = true
  | .select resultName => ∀ name ∈ resultName, isIdentifier name = true
  | _ => True

theorem Comparison.isNamed_sqlOperator_parse {operator : Text}
    (hoperator : operator.trim ∈ spellings) : (sqlOperator (parse operator)).isNamed = true := by
  have hspellings : ∀ text ∈ spellings, (sqlOperator (ofTrimmed text)).isNamed = true := by decide
  exact hspellings _ hoperator

theorem Comparison.sqlOperator_ne_and (comparison : Comparison) :
    sqlOperator comparison ≠ .and := by
  cases comparison <;> simp [sqlOperator]

theorem Operation.HasSpelledOperator.isPlain {operation : Operation}
    (hoperation : operation.HasSpelledOperator) {request : Request}
    (hspells : operation.Spells request) : request.IsPlain := by
  cases hspells with
  | filter path operator value => exact Comparison.isNamed_sqlOperator_parse hoperation
  | select selection hname => exact hname
  | whereIn | contains | present | orderBy => trivial

/-! ### Operands and predicates of key paths -/

namespace Sql.Expression

/-- The root of a key path is made of identifiers. -/
theorem isOperand_rootColumn (path : KeyPath) : (rootColumn path).IsOperand := by
  have hroot := path.root_isColumnName
  unfold rootColumn KeyPath.column
  unfold isColumnName at hroot
  cases hcut : path.root.cut ['.'] with
  | none =>
    rw [hcut] at hroot
    exact .column (by simp) hroot
  | some parts =>
    rw [hcut] at hroot
    obtain ⟨htable, hcolumn⟩ := Bool.and_eq_true_iff.mp hroot
    exact .column (by simpa using htable) hcolumn

theorem isConjunct_textContains {target : Expression} (htarget : target.IsOperand)
    (search : Text) : (textContains target search).IsConjunct :=
  .like _ _ htarget

theorem isConjunct_memberOf {target : Expression} (htarget : target.IsOperand)
    (values : List Json) : (memberOf target values).IsConjunct := by
  unfold memberOf
  split
  · exact .never
  · exact .inList htarget (List.forall_mem_map.mpr fun value _ ↦ .bind value)

end Sql.Expression

theorem Phrasing.FunctionCall.isOperand_extracted (path : KeyPath) :
    (FunctionCall.extracted path).IsOperand :=
  .call (by decide) (List.forall_mem_cons.mpr ⟨(Expression.isOperand_rootColumn path).isPlain,
    List.forall_mem_singleton.mpr (.literal _)⟩)

theorem Phrasing.FunctionCall.isConjunct_present (path : KeyPath) :
    (FunctionCall.present path).IsConjunct := by
  have hroot := Expression.isOperand_rootColumn path
  unfold FunctionCall.present
  split
  · have hcontains : ∀ argument ∈ [.rootColumn path, .string "one".toList, pathLiteral path],
        Expression.IsPlain argument :=
      List.forall_mem_cons.mpr ⟨hroot.isPlain, List.forall_mem_cons.mpr ⟨.literal _,
        List.forall_mem_singleton.mpr (.literal _)⟩⟩
    have htype : ∀ argument ∈ [extracted path], Expression.IsPlain argument :=
      List.forall_mem_singleton.mpr (isOperand_extracted path).isPlain
    exact .nested (.binary rfl (.call (by decide) hcontains)
      (.binary rfl (.call (by decide) htype) (.literal _)))
  · exact .isNotNull hroot

/-- The segments of a key path stand in literals. -/
theorem Phrasing.OperatorChain.isOperand_steps {target : Expression} (htarget : target.IsOperand)
    (segments : List Text) : (OperatorChain.steps target segments).IsOperand := by
  induction segments generalizing target with
  | nil => exact htarget
  | cons segment rest ih =>
    cases rest with
    | nil => exact .jsonAccess true htarget (.string segment)
    | cons next others => exact ih (.jsonAccess false htarget (.string segment))

namespace Dialect.Extracts

variable {dialect : Dialect} {extraction : Extraction}

/-- What a SQL dialect finds at a path is an operand. -/
theorem isOperand_values (hextracts : dialect.Extracts extraction) (path : KeyPath) :
    (extraction.values path).IsOperand := by
  have hroot := Expression.isOperand_rootColumn path
  cases hextracts with
  | sqlFunction =>
    exact .call (by decide) (List.forall_mem_singleton.mpr
      (FunctionCall.isOperand_extracted path).isPlain)
  | sqlOperator => exact OperatorChain.isOperand_steps hroot _
  | generic => exact hroot

theorem isConjunct_present (hextracts : dialect.Extracts extraction) (path : KeyPath) :
    (extraction.present path).IsConjunct := by
  have hroot := Expression.isOperand_rootColumn path
  cases hextracts with
  | sqlFunction => exact FunctionCall.isConjunct_present path
  | sqlOperator => exact .isNotNull (OperatorChain.isOperand_steps hroot _)
  | generic => exact .isNotNull hroot

theorem isConjunct_compare (hextracts : dialect.Extracts extraction) {target : Expression}
    (htarget : target.IsOperand) {comparison : Comparison}
    (hcomparison : (Phrasing.sqlOperator comparison).isNamed = true) (value : Json) :
    (extraction.compare target comparison value).IsConjunct := by
  cases hextracts with
  | sqlFunction => exact .compare value hcomparison comparison.sqlOperator_ne_and htarget
  | sqlOperator => exact .compare value hcomparison comparison.sqlOperator_ne_and htarget
  | generic => exact Expression.isConjunct_textContains htarget _

end Dialect.Extracts

/-! ### Plain fragments -/

/-- A fragment of plain parts, whose predicate is a conjunct. -/
def Fragment.IsPlain : Fragment → Prop
  | .filter predicate => predicate.IsConjunct
  | .order item => item.IsPlain
  | .projection item => item.IsPlain
  | _ => True

theorem KeyPath.isIdentifierChar_of_mem_column (path : KeyPath) :
    ∀ c ∈ path.column.2, isIdentifierChar c = true := by
  cases Expression.isOperand_rootColumn path with
  | column _ hname =>
    intro c hmem
    exact isIdentifierChar_of_mem hname hmem

theorem KeyPath.isIdentifierChar_of_mem_defaultAlias (path : KeyPath) :
    ∀ c ∈ path.defaultAlias, isIdentifierChar c = true := by
  refine List.forall_mem_map.mpr fun c _ ↦ ?_
  split
  · assumption
  · decide

namespace Dialect.Extracts

variable {dialect : Dialect} {extraction : Extraction}

theorem isIdentifierChar_of_mem_defaultName (hextracts : dialect.Extracts extraction)
    (path : KeyPath) : ∀ c ∈ extraction.defaultName path, isIdentifierChar c = true := by
  cases hextracts with
  | sqlFunction => exact path.isIdentifierChar_of_mem_defaultAlias
  | sqlOperator => exact path.isIdentifierChar_of_mem_defaultAlias
  | generic => exact path.isIdentifierChar_of_mem_column

/-- A SQL dialect phrases plain requests as plain fragments. -/
theorem isPlain_phrase (hextracts : dialect.Extracts extraction) (path : KeyPath)
    {request : Request} (hrequest : request.IsPlain) :
    (extraction.phrase path request).IsPlain := by
  have hvalues := hextracts.isOperand_values path
  cases request with
  | compare comparison value => exact hextracts.isConjunct_compare hvalues hrequest value
  | memberOf list => exact Expression.isConjunct_memberOf hvalues list
  | contains search => exact Expression.isConjunct_textContains hvalues search
  | present => exact hextracts.isConjunct_present path
  | orderBy direction => exact ⟨hvalues.isPlain, rfl⟩
  | select resultName =>
    refine ⟨hvalues.isPlain, ?_⟩
    intro name hname
    obtain rfl := Option.some.inj hname
    cases resultName with
    | none => exact hextracts.isIdentifierChar_of_mem_defaultName path
    | some name =>
      intro c hmem
      exact isIdentifierChar_of_mem (hrequest name rfl) hmem

end Dialect.Extracts

/-- Operations with recognised operators add plain fragments, if they succeed. -/
theorem Composer.isPlain_fragmentsFor (composer : Composer) (query : SqlQuery)
    {operations : List Operation}
    (hoperations : ∀ operation ∈ operations, operation.HasSpelledOperator) :
    ∀ fragment ∈ composer.fragmentsFor query operations, fragment.IsPlain := by
  intro fragment hmem
  obtain ⟨operation, hoperation, hfragment⟩ := mem_fragmentsFor_iff.mp hmem
  obtain ⟨extraction, path, request, hextracts, hread, rfl⟩ :=
    fragmentFor_sqlQuery_eq_ok_iff.mp hfragment
  exact hextracts.isPlain_phrase path
    ((hoperations operation hoperation).isPlain (Operation.spells_of_read_eq_ok hread))

end KeyPathQuery
