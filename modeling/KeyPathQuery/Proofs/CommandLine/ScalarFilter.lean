import KeyPathQuery.Proofs.CommandLine.Stages
import KeyPathQuery.Proofs.Composer.BoundValues
import KeyPathQuery.Proofs.Json.ScalarText
import KeyPathQuery.Proofs.KeyPath.Grammar

/-!
Filters on JSON scalars from the command line. The value of a filter is read as JSON, and a scalar
is read back from its compact text, so a filter binds the scalar whose text it is given. Between
the text and the reader stand the options, though: an argument that starts with a hyphen is no
value, and a filter takes three values, so that none can be attached to it. The negative numbers
are the scalars whose text starts with a hyphen. They come through where the text starts with a
space, since JSON may have spaces in front.

Main statement: `run_scalar_filter`.
-/

set_option autoImplicit false
set_option relaxedAutoImplicit false

namespace KeyPathQuery

open Phrasing Sql

/-! ### Texts that start with no hyphen -/

/-- A key path starts with a letter or an underscore. -/
theorem KeyPath.head?_text_ne_hyphen (path : KeyPath) : path.text.head? ≠ some '-' := by
  have hidentifier {name rest : Text} (hname : isIdentifier name = true) :
      (name ++ rest).head? ≠ some '-' := by
    obtain ⟨c, others, rfl, hstart, -⟩ := isIdentifier_iff.mp hname
    intro hhead
    rw [List.cons_append, List.head?_cons, Option.some.injEq] at hhead
    rw [hhead] at hstart
    exact absurd hstart (by decide)
  unfold text
  rcases isColumnName_iff.mp path.root_isColumnName with hroot | ⟨table, column, hroot, htable, -⟩
  · exact hidentifier hroot
  · rw [hroot, List.append_assoc]
    exact hidentifier htable

/-- A recognised operator starts with no hyphen, since white space is no hyphen either. -/
theorem Comparison.head?_ne_hyphen {operator : Text} (hoperator : operator.trim ∈ spellings) :
    operator.head? ≠ some '-' := by
  intro hhead
  obtain ⟨before, after, hbefore, hafter, htext⟩ := Text.exists_blank_ends operator
  have hspelling : ∀ text ∈ spellings, text ≠ [] ∧ text.head? ≠ some '-' := by decide
  obtain ⟨hne, hfirst⟩ := hspelling _ hoperator
  rw [htext] at hhead
  -- The hyphen would stand in the white space before the operator, or in front of the operator.
  cases before with
  | cons c rest =>
    obtain rfl : c = '-' := by simpa using hhead
    exact absurd (hbefore '-' List.mem_cons_self) (by decide)
  | nil =>
    rw [List.nil_append, List.head?_append_of_ne_nil _ hne] at hhead
    exact hfirst hhead

namespace Json

theorem head?_integerText_iff (value : Int) :
    (integerText value).head? = some '-' ↔ value < 0 := by
  unfold integerText
  split
  next hnegative => simp [hnegative]
  next hpositive =>
    refine iff_of_false (fun hhead ↦ ?_) hpositive
    have hdigit := isDigit_of_mem_digits (List.mem_of_head? hhead)
    exact absurd hdigit (by decide)

/-- The scalars whose text starts with a hyphen are the negative numbers. -/
theorem IsScalar.head?_compact_iff {value : Json} (hscalar : value.IsScalar) :
    value.compact.head? = some '-' ↔ ∃ number < 0, value = .integer number := by
  cases hscalar with
  | null => exact iff_of_false (by decide) (by simp [Json.integer])
  | boolean value => exact iff_of_false (by cases value <;> decide) (by simp [Json.integer])
  | string text => exact iff_of_false (by simp [compact, stringText]) (by simp [Json.integer])
  | @integer value hleast hgreatest =>
    have hcompact : (Json.integer value).compact = integerText value := rfl
    rw [hcompact, head?_integerText_iff]
    simp [Json.integer]

/-- A lone hyphen is the text of no scalar, since no value is read from it. -/
theorem IsScalar.compact_ne_hyphen {value : Json} (hscalar : value.IsScalar) :
    value.compact ≠ ['-'] := by
  intro hcompact
  have hread := parse?_compact hscalar
  rw [hcompact] at hread
  cases hread

end Json

namespace CommandLine

/-! ### The arguments of a filter -/

/-- The arguments for a filter on PostgreSQL. -/
def filterArguments (path operator value : Text) : List Text :=
  ["-d".toList, "pgsql".toList, "--filter".toList, path, operator, value]

theorem spelling_pgsql :
    Occurrence.Spelling ⟨.driver, ["pgsql".toList]⟩ ["-d".toList, "pgsql".toList] :=
  .separate (.letter rfl) rfl (by decide)

/-- Between options, the text of a scalar is a value unless the scalar is a negative number. -/
theorem Argument.isValue_compact_iff {value : Json} (hscalar : value.IsScalar) :
    isValue value.compact = true ↔ ¬∃ number < 0, value = .integer number := by
  rw [isValue_iff, or_iff_right hscalar.compact_ne_hyphen, ne_eq, hscalar.head?_compact_iff]

namespace Arguments

theorem valueOf_of_parse? {text : Text} {value : Json} (hscalar : value.IsScalar)
    (hparse : Json.parse? text = some value) : valueOf text = value := by
  unfold valueOf
  rw [hparse]
  cases hscalar <;> rfl

/-- What the arguments for a filter on PostgreSQL ask for. -/
def ofFilter (path operator value : Text) : Arguments where
  driver := "pgsql".toList
  table := standardTable
  config := none
  operations := [.filter path operator (valueOf value)]
  inline := false
  check := false

/-- A filter whose three arguments are values is read, and no more is asked for. -/
theorem read_filterArguments {path operator value : Text} (hpath : Argument.isValue path = true)
    (hoperator : Argument.isValue operator = true) (hvalue : Argument.isValue value = true) :
    read (filterArguments path operator value) = .ok (ofFilter path operator value) := by
  have hfilter : Occurrence.Spelling ⟨.filter, [path, operator, value]⟩
      ["--filter".toList, path, operator, value] :=
    .separate (.long .filter) rfl (by simp [hpath, hoperator, hvalue])
  have hoccurrences : Occurrence.readFrom [] (filterArguments path operator value) =
      .ok [⟨.driver, ["pgsql".toList]⟩, ⟨.filter, [path, operator, value]⟩] :=
    Occurrence.readFrom_of_spells (.cons spelling_pgsql (.cons hfilter .nil))
      ⟨by simp, by simp, by simp, by simp⟩
  rw [read, hoccurrences]
  rfl

/-- A filter whose last argument is no value is at fault. -/
theorem read_filterArguments_of_not_isValue (path operator : Text) {value : Text}
    (hvalue : Argument.isValue value = false) :
    read (filterArguments path operator value) = .error .misuse := by
  have hnone : Occurrence.takeValues? .filter none [path, operator, value] = none :=
    if_neg fun hvalues ↦ by
      have hall := hvalues.2
      simp [Setting.arity, hvalue] at hall
  have hfilter : Occurrence.readFrom [.driver] ["--filter".toList, path, operator, value] =
      .error .misuse :=
    Occurrence.readFrom_of_takeValues?_eq_none (Argument.Names.long .filter).classify_eq hnone _
  have hoccurrences : Occurrence.readFrom [] (filterArguments path operator value) =
      .error .misuse := by
    have hadmissible : Occurrence.isAdmissible [] ⟨.driver, ["pgsql".toList]⟩ = true := by decide
    have hread := Occurrence.readFrom_append spelling_pgsql hadmissible (by decide)
      ["--filter".toList, path, operator, value]
    rw [hfilter] at hread
    exact hread
  rw [read, hoccurrences]

end Arguments

end CommandLine

/-! ### The statement of a filter -/

namespace Phrasing

theorem OperatorChain.bindings_chain (path : KeyPath) (style : PlaceholderStyle) :
    ((chain path).compile style).bindings = [] := by
  have hvalues : (chain path).values = [] := values_steps _ _
  have hslots : (chain path).template.slots = [] := (chain path).slots_template.trans hvalues
  rw [Expression.compile, Expression.written_eq, Template.write, hslots]
  cases style <;> rfl

/-- The text of a comparison of a chain with the first value. -/
theorem compile_compareValue_chain (path : KeyPath) (comparison : Comparison) (value : Json) :
    (compareValue (OperatorChain.chain path) comparison value).compile .numbered =
      ⟨((OperatorChain.chain path).compile .numbered).sql ++
        ([' '] ++ (sqlOperator comparison).text ++ [' ']) ++ "$1".toList, [value]⟩ := by
  have hchain := OperatorChain.bindings_chain path .numbered
  unfold Expression.compile at hchain ⊢
  rw [compareValue, Expression.written]
  change Written.append (Written.append _ _) _ _ = _
  simp only [Written.append, hchain, Written.text, Expression.written, Written.value]
  rfl

end Phrasing

/-- The statement of PostgreSQL with a filter. -/
def SqlQuery.ofFilter (connection : Connection) (table : Text) (path : KeyPath) (operator : Text)
    (value : Json) : SqlQuery where
  connection := connection
  dialect := .sqlOperator
  statement :=
    { projections := [.wildcard]
      tables := [.ofText table]
      condition := some (compareValue (OperatorChain.chain path) (.parse operator) value) }

namespace Composer

/-- A filter on a statement of PostgreSQL makes a condition of it. -/
theorem succeeds_filter_of_sqlOperator {composer : Composer} {connection : Connection}
    (hdialect : (composer.adapterFor connection).dialect = .sqlOperator) (table : Text)
    {text : Text} {path : KeyPath} (hpath : KeyPath.parse text = .ok path) (operator : Text)
    (value : Json) :
    composer.Succeeds (composer.sqlQuery connection table) [.filter text operator value]
      (.ofFilter connection table path operator value) := by
  have hstart : composer.sqlQuery connection table = .ofTable connection .sqlOperator table := by
    rw [sqlQuery, hdialect]
  have hextracts : (composer.adapterFor connection).dialect.Extracts OperatorChain.extraction := by
    rw [hdialect]
    exact .sqlOperator
  have hpathRead : KeyPath.read text = .ok path := by rw [KeyPath.read, hpath]
  have hread : (Operation.filter text operator value).read composer.policy =
      .ok (path, .compare (.parse operator) value) :=
    Operation.read_eq_ok_iff.mpr ⟨hpathRead, rfl⟩
  have hfragment : composer.fragmentFor (SqlQuery.ofTable connection .sqlOperator table)
      (.filter text operator value) =
        .ok (.filter (compareValue (OperatorChain.chain path) (.parse operator) value)) :=
    fragmentFor_sqlQuery_eq_ok_iff.mpr ⟨_, _, _, hextracts, hread, rfl⟩
  rw [Succeeds, hstart, runAll_sqlQuery, fragmentsFor_cons_of_ok hfragment, List.map_singleton,
    failure?_of_ok hfragment]
  rfl

end Composer

namespace CommandLine.Report

/-- The answer to a filter on PostgreSQL: a statement with one placeholder, and below it the value
as a list of its own. -/
def filterAnswer (path : KeyPath) (operator : Text) (value : Json) : Report where
  exitCode := 0
  output := "SELECT * FROM users WHERE ".toList ++
    (((OperatorChain.chain path).compile .numbered).sql ++
      ([' '] ++ (sqlOperator (.parse operator)).text ++ [' ']) ++ "$1".toList) ++ "\n".toList ++
    (Json.array [value]).compact ++ "\n".toList
  choice := some "using pgsql adapter (sql-operator)".toList
  failure := none

theorem compile_ofFilter (connection : Connection) (path : KeyPath) (operator : Text)
    (value : Json) :
    (SqlQuery.ofFilter connection Arguments.standardTable path operator value).compile =
      ⟨"SELECT * FROM users WHERE ".toList ++
        (((OperatorChain.chain path).compile .numbered).sql ++
          ([' '] ++ (sqlOperator (.parse operator)).text ++ [' ']) ++ "$1".toList), [value]⟩ := by
  have hcompile :
      (SqlQuery.ofFilter connection Arguments.standardTable path operator value).compile =
        ⟨"SELECT * FROM users WHERE ".toList ++
          ((compareValue (OperatorChain.chain path) (.parse operator) value).compile .numbered).sql,
          ((compareValue (OperatorChain.chain path) (.parse operator) value).compile
            .numbered).bindings⟩ := rfl
  rwa [compile_compareValue_chain] at hcompile

/-- A filter with a key path is answered, whatever its operator, if its three arguments are
values. No check is asked for, so it does not matter what the parser accepts. -/
theorem run_filterArguments {userPath : Option Text} {file : Option Text → ConfigurationFile}
    {text operator valueText : Text} {path : KeyPath}
    (hconfiguration : configuration none userPath (file none) = .ok .standard)
    (hpath : KeyPath.parse text = .ok path) (htext : Argument.isValue text = true)
    (hoperator : Argument.isValue operator = true) (hvalue : Argument.isValue valueText = true)
    (parser : Parser) (help : Text) :
    run userPath file (filterArguments text operator valueText) parser help =
      filterAnswer path operator (Arguments.valueOf valueText) := by
  -- Only the driver is looked at, so a closed computation finds the adapter.
  have hadapter : (Arguments.ofFilter text operator valueText).adapter
      Configuration.standard.composer = .postgres :=
    (by decide : Configuration.standard.composer.adapterFor (.ofDriverOrUrl "pgsql".toList) =
      .postgres)
  have hends : ComposerEndsIn parser Configuration.standard.composer
      (.ofFilter text operator valueText)
      (filterAnswer path operator (Arguments.valueOf valueText)) := by
    have hdialect := congrArg Adapter.dialect hadapter
    have hsucceeds := Composer.succeeds_filter_of_sqlOperator hdialect Arguments.standardTable
      hpath operator (Arguments.valueOf valueText)
    have hcompile := compile_ofFilter (Arguments.ofFilter text operator valueText).connection path
      operator (Arguments.valueOf valueText)
    have husing : (Arguments.ofFilter text operator valueText).usingLine
        Configuration.standard.composer = "using pgsql adapter (sql-operator)".toList := by
      unfold Arguments.usingLine
      simp only [hadapter]
      rfl
    have hbindings : (SqlQuery.ofFilter (Arguments.ofFilter text operator valueText).connection
        Arguments.standardTable path operator
        (Arguments.valueOf valueText)).compile.bindings ≠ [] := by
      rw [hcompile]
      exact List.cons_ne_nil _ _
    have hanswer : ComposerEndsIn parser _ _ _ :=
      .boundStatement (by rw [hdialect]; decide) hsucceeds nofun rfl hbindings
    rw [hcompile, husing] at hanswer
    exact hanswer
  rw [run, Arguments.read_filterArguments htext hoperator hvalue]
  exact ofArguments_eq_iff.mpr (.configured (configuration_eq_iff.mp hconfiguration) hends)

/-- A filter on a scalar that is given by its compact text is answered with the scalar as the only
value, unless it is a negative number: then the arguments are at fault. With a space in front of
the text every scalar is answered. -/
theorem run_scalar_filter (userPath : Option Text) (file : Option Text → ConfigurationFile)
    (parser : Parser) (help : Text) {text operator : Text} {path : KeyPath} {value : Json}
    (hconfiguration : configuration none userPath (file none) = .ok .standard)
    (hpath : KeyPath.parse text = .ok path) (hoperator : operator.trim ∈ Comparison.spellings)
    (hscalar : value.IsScalar) :
    ((∃ number < 0, value = .integer number) →
      run userPath file (filterArguments text operator value.compact) parser help =
        { exitCode := 2, output := [], choice := none, failure := none }) ∧
    ((¬∃ number < 0, value = .integer number) →
      run userPath file (filterArguments text operator value.compact) parser help =
        filterAnswer path operator value) ∧
    run userPath file (filterArguments text operator (' ' :: value.compact)) parser help =
      filterAnswer path operator value := by
  have htext : Argument.isValue text = true := by
    rw [← KeyPath.parse_eq_ok_iff.mp hpath]
    exact Argument.isValue_iff.mpr (.inr path.head?_text_ne_hyphen)
  have hoperatorValue : Argument.isValue operator = true :=
    Argument.isValue_iff.mpr (.inr (Comparison.head?_ne_hyphen hoperator))
  have hspaced : Argument.isValue (' ' :: value.compact) = true :=
    Argument.isValue_iff.mpr (.inr (by simp))
  refine ⟨fun hnegative ↦ ?_, fun hother ↦ ?_, ?_⟩
  · have hvalue : Argument.isValue value.compact = false := by
      rw [← Bool.not_eq_true, Argument.isValue_compact_iff hscalar]
      exact not_not_intro hnegative
    rw [run, Arguments.read_filterArguments_of_not_isValue text operator hvalue]
    rfl
  · have hvalue := (Argument.isValue_compact_iff hscalar).mpr hother
    rw [run_filterArguments hconfiguration hpath htext hoperatorValue hvalue,
      Arguments.valueOf_of_parse? hscalar (Json.parse?_compact hscalar)]
  · rw [run_filterArguments hconfiguration hpath htext hoperatorValue hspaced,
      Arguments.valueOf_of_parse? hscalar (Json.parse?_space_compact hscalar)]

/-- A negative number is at fault by itself, and answered behind a space. -/
theorem run_scalar_filter_of_negative :
    (∀ userPath parser help, run (some userPath) (fun _ ↦ .absent)
      (filterArguments "meta->a".toList "=".toList "-5".toList) parser help =
        { exitCode := 2, output := [], choice := none, failure := none }) ∧
    ∀ userPath parser help, run (some userPath) (fun _ ↦ .absent)
      (filterArguments "meta->a".toList "=".toList " -5".toList) parser help =
        { exitCode := 0
          output := "SELECT * FROM users WHERE meta->>'a' = $1\n[-5]\n".toList
          choice := some "using pgsql adapter (sql-operator)".toList
          failure := none } := by
  have hpath : KeyPath.parse "meta->a".toList =
      .ok ⟨"meta".toList, ["a".toList], by decide, by decide⟩ := rfl
  have hoperator : Text.trim "=".toList ∈ Comparison.spellings := by decide
  have hscalar : (Json.integer (-5)).IsScalar := .integer (by decide) (by decide)
  have hanswers (userPath : Text) (parser : Parser) (help : Text) :=
    run_scalar_filter (some userPath) (fun _ ↦ .absent) parser help rfl hpath hoperator hscalar
  exact ⟨fun userPath parser help ↦ (hanswers userPath parser help).1 ⟨-5, by decide, rfl⟩,
    fun userPath parser help ↦ (hanswers userPath parser help).2.2⟩

/-- Not every scalar can be filtered on with its compact text. -/
theorem not_forall_scalar_filter_succeeds :
    ¬∀ (userPath text operator : Text) (path : KeyPath) (value : Json),
      KeyPath.parse text = .ok path → operator.trim ∈ Comparison.spellings → value.IsScalar →
        (run (some userPath) (fun _ ↦ .absent)
          (filterArguments text operator value.compact)).exitCode = 0 := by
  intro hsucceeds
  have hscalar : (Json.integer (-5)).IsScalar := .integer (by decide) (by decide)
  have hexit := hsucceeds [] "meta->a".toList "=".toList
    ⟨"meta".toList, ["a".toList], by decide, by decide⟩ (.integer (-5)) rfl (by decide) hscalar
  have hvalue : Argument.isValue (Json.integer (-5)).compact = false := by decide
  rw [run, Arguments.read_filterArguments_of_not_isValue _ _ hvalue] at hexit
  exact absurd hexit (by decide)

end CommandLine.Report

end KeyPathQuery
