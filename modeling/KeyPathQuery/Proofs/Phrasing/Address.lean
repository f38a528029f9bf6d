import KeyPathQuery.Proofs.Phrasing.Collect
import KeyPathQuery.Proofs.Phrasing.PathLiteral

/-!
Which field a fragment is about, read back from the fragment alone. The three dialects that know
fields write a key path in three ways: as a column with a path literal beside it in every call that
takes one, as a chain of steps below a column, and as names with points between them. Each way has
a reader of its own here, which knows nothing of key paths. The readers of SQL go through the whole
expression, so a fragment cannot be about a second field in a place where they do not look.

What tells key paths apart is the characters of their names: no segment holds a point or a
quotation mark, and a root holds a point only between its table and its column. Dotted names tell
them apart where roots have no tables, since `a.b` is both a qualified root and a field of a column.

Main statement: `Dialect.phrase_addresses`.
-/

set_option autoImplicit false
set_option relaxedAutoImplicit false

namespace KeyPathQuery

open Sql Phrasing

/-! ### Addresses -/

/-- A column, with its table if that is named, and the names of the fields below it, outermost
first. -/
structure Address where
  table : Option Text
  column : Text
  fields : List Text
deriving DecidableEq, Repr

/-- The names on the way to a field. -/
def Address.names (address : Address) : List Text :=
  address.table.toList ++ address.column :: address.fields

namespace KeyPath

/-- The field of a key path. -/
def address (path : KeyPath) : Address :=
  ⟨path.column.1, path.column.2, path.segments⟩

theorem address_of_identifier {path : KeyPath} (hroot : isIdentifier path.root = true) :
    path.address = ⟨none, path.root, path.segments⟩ := by
  simp [address, column, cut_point_identifier hroot]

theorem address_of_qualified {path : KeyPath} {table name : Text}
    (hroot : path.root = table ++ '.' :: name) (htable : isIdentifier table = true) :
    path.address = ⟨some table, name, path.segments⟩ := by
  simp [address, column, hroot, cut_point_qualified htable]

theorem address_injective : Function.Injective address := by
  rintro ⟨root, segments, hroot, hsegments⟩ ⟨other, others, hother, hothers⟩ haddress
  obtain ⟨htable, hcolumn, rfl⟩ := Address.mk.inj haddress
  suffices root = other by subst this; rfl
  simp only [column] at htable hcolumn
  cases hcut : root.cut ['.'] with
  | none =>
    cases hcutOther : other.cut ['.'] with
    | none => simpa [hcut, hcutOther] using hcolumn
    | some parts => simp [hcut, hcutOther] at htable
  | some parts =>
    cases hcutOther : other.cut ['.'] with
    | none => simp [hcut, hcutOther] at htable
    | some otherParts =>
      simp only [hcut, hcutOther, Option.some.injEq] at htable hcolumn
      rw [Text.cut_eq_some hcut, Text.cut_eq_some hcutOther, htable, hcolumn]

/-- The names of a root and of the segments are the pieces of the dotted form. -/
theorem split_dotted (path : KeyPath) : Text.split '.' path.dotted = path.address.names := by
  have hpieces {name : Text} (hname : '.' ∉ name) {segments : List Text}
      (hsegments : ∀ segment ∈ segments, isSegmentName segment = true) :
      Text.split '.' (name ++ segments.flatMap ('.' :: ·)) = name :: segments := by
    induction segments generalizing name with
    | nil => simpa using Text.split_of_notMem hname
    | cons segment rest ih =>
      obtain ⟨hsegment, hrest⟩ := List.forall_mem_cons.mp hsegments
      rw [List.flatMap_cons, List.cons_append, Text.split_append_cons hname,
        ih (notMem_of_isSegmentName hsegment (by decide)) hrest]
  rcases isColumnName_iff.mp path.root_isColumnName with hroot | ⟨table, name, hroot, htable, hname⟩
  · rw [dotted, hpieces (point_notMem_identifier hroot) path.segments_areNames,
      address_of_identifier hroot]
    rfl
  · rw [dotted, hroot, List.append_assoc, List.cons_append,
      Text.split_append_cons (point_notMem_identifier htable),
      hpieces (point_notMem_identifier hname) path.segments_areNames,
      address_of_qualified hroot htable]
    rfl

/-- Without tables, dotted forms tell paths apart. -/
theorem eq_of_dotted_eq {path other : KeyPath} (hroot : isIdentifier path.root = true)
    (hother : isIdentifier other.root = true) (hdotted : path.dotted = other.dotted) :
    path = other := by
  have hnames := split_dotted path
  rw [hdotted, split_dotted, address_of_identifier hroot, address_of_identifier hother] at hnames
  obtain ⟨hroots, hsegments⟩ : other.root = path.root ∧ other.segments = path.segments := by
    simpa [Address.names] using hnames
  apply address_injective
  rw [address_of_identifier hroot, address_of_identifier hother, hroots, hsegments]

/-- With a table the dotted form is also that of a field. -/
example : dotted ⟨"a.b".toList, [], by decide, by decide⟩ =
    dotted ⟨"a".toList, ["b".toList], by decide, by decide⟩ := rfl

end KeyPath

/-! ### Calls -/

namespace Phrasing.FunctionCall

/-- Whether a function takes a column first and a path literal last. -/
def takesPath (function : Text) : Bool :=
  function == "JSON_EXTRACT".toList || function == "JSON_CONTAINS_PATH".toList

/-- The field that the arguments of such a function name. -/
def readArguments? : List Expression → Option Address
  | .column table name :: arguments =>
    match arguments.getLast? with
    | some (.literal (.string content)) =>
      (readLiteral? content).map fun fields ↦ ⟨table, name, fields⟩
    | _ => none
  | _ => none

/-- The field that a call of such a function names, if it names one. -/
def readCall? : Expression → Option (Option Address)
  | .call function arguments =>
    if takesPath function then some (readArguments? arguments) else none
  | _ => none

theorem readsOperands_readCall? : Expression.ReadsOperands readCall? where
  literal _ := rfl
  bind _ := rfl
  binary _ _ _ := rfl
  like _ _ _ := rfl
  inList _ _ := rfl
  isNotNull _ := rfl
  nested _ := rfl

theorem readCall?_of_takesPath {function : Text} (hfunction : takesPath function = true)
    (path : KeyPath) (between : List Expression) :
    readCall? (.call function (.rootColumn path :: (between ++ [pathLiteral path]))) =
      some (some path.address) := by
  rw [readCall?, if_pos hfunction]
  simp [readArguments?, Expression.rootColumn, pathLiteral, Expression.string,
    readLiteral?_segments, KeyPath.address]

theorem readCall?_extracted (path : KeyPath) :
    readCall? (extracted path) = some (some path.address) :=
  readCall?_of_takesPath (by decide) path []

theorem extracted_injective : Function.Injective extracted := by
  intro path other hsame
  have hread := congrArg readCall? hsame
  rw [readCall?_extracted, readCall?_extracted] at hread
  exact KeyPath.address_injective (Option.some.inj (Option.some.inj hread))

/-- Any other function of an extraction leaves the extraction to be read. -/
theorem collect_call_extracted {function : Text} (hfunction : takesPath function = false)
    (path : KeyPath) :
    (Expression.call function [extracted path]).collect readCall? = [some path.address] := by
  have hnone : readCall? (.call function [extracted path]) = none := by
    simp [readCall?, hfunction]
  rw [Expression.collect_call hnone, Expression.collectAll,
    Expression.collect_of_read? (readCall?_extracted path)]
  rfl

theorem collect_present {path : KeyPath} (hnested : path.isNested = true) :
    (present path).collect readCall? = [some path.address, some path.address] := by
  have hread := readsOperands_readCall?
  have hcontains : (Expression.call "JSON_CONTAINS_PATH".toList
      [.rootColumn path, .string "one".toList, pathLiteral path]).collect readCall? =
        [some path.address] :=
    Expression.collect_of_read? (readCall?_of_takesPath (by decide) path [.string "one".toList])
  have htype : (Expression.call "JSON_TYPE".toList [extracted path]).collect readCall? =
      [some path.address] :=
    collect_call_extracted (by decide) path
  have hnull : (Expression.string "NULL".toList).collect readCall? = [] :=
    Expression.collect_literal hread _
  rw [present, if_pos hnested, Expression.collect_nested hread, Expression.collect_binary hread,
    Expression.collect_binary hread, hcontains, htype, hnull]
  rfl

/-- Every call of a fragment that names a field names the field of the path, and there is one. -/
theorem collect_phrase {path : KeyPath} {request : Request} (hrequest : request.AsksField path) :
    (extraction.phrase path request).collect readCall? ≠ [] ∧
      ∀ reading ∈ (extraction.phrase path request).collect readCall?,
        reading = some path.address := by
  have hvalues : (extraction.values path).collect readCall? = [some path.address] :=
    collect_call_extracted (by decide) path
  have hphrase := Extraction.collect_phrase extraction rfl readsOperands_readCall? hrequest
  cases request with
  | present =>
    have hpresent : (extraction.present path).collect readCall? = _ := collect_present hrequest
    simp [hphrase, hpresent]
  | compare | memberOf | contains | orderBy | select => simp [hphrase, hvalues]

end Phrasing.FunctionCall

/-! ### Chains -/

namespace Phrasing.OperatorChain

/-- A column with the steps below it, innermost first: the name of each, and whether it gives a
text. -/
structure Chain where
  table : Option Text
  column : Text
  steps : List (Text × Bool)
deriving DecidableEq, Repr

namespace Chain

/-- The field at the end of a chain. -/
def address (chain : Chain) : Address :=
  ⟨chain.table, chain.column, chain.steps.map (·.1)⟩

/-- The last step and no other gives a text. -/
def EndsInText (chain : Chain) : Prop :=
  (∀ step ∈ chain.steps.dropLast, step.2 = false) ∧ ∀ step ∈ chain.steps.getLast?, step.2 = true

end Chain

/-- The chain that an expression is, if it is one. -/
def readChain? : Expression → Option Chain
  | .column table name => some ⟨table, name, []⟩
  | .jsonAccess target (.literal (.string segment)) asText =>
    (readChain? target).map fun chain ↦ { chain with steps := chain.steps ++ [(segment, asText)] }
  | _ => none

theorem readsOperands_readChain? : Expression.ReadsOperands readChain? where
  literal _ := rfl
  bind _ := rfl
  binary _ _ _ := rfl
  like _ _ _ := rfl
  inList _ _ := rfl
  isNotNull _ := rfl
  nested _ := rfl

/-- The steps for segments, the last of which gives a text. -/
def textSteps : List Text → List (Text × Bool)
  | [] => []
  | [segment] => [(segment, true)]
  | segment :: next :: rest => (segment, false) :: textSteps (next :: rest)

theorem map_fst_textSteps (segments : List Text) : (textSteps segments).map (·.1) = segments := by
  fun_induction textSteps segments <;> simp_all

theorem readChain?_steps {target : Expression} {chain : Chain}
    (htarget : readChain? target = some chain) (segments : List Text) :
    readChain? (steps target segments) =
      some { chain with steps := chain.steps ++ textSteps segments } := by
  induction segments generalizing target chain with
  | nil => simp [steps, textSteps, htarget]
  | cons segment rest ih =>
    cases rest with
    | nil => simp [steps, textSteps, readChain?, Expression.string, htarget]
    | cons next others =>
      have hstep : readChain? (.jsonAccess target (.string segment) false) =
          some { chain with steps := chain.steps ++ [(segment, false)] } := by
        simp [readChain?, Expression.string, htarget]
      simp [steps, textSteps, ih hstep]

theorem textSteps_ne_nil (segment : Text) (rest : List Text) :
    textSteps (segment :: rest) ≠ [] := by
  cases rest <;> simp [textSteps]

theorem endsInText_textSteps (table : Option Text) (column : Text) (segments : List Text) :
    Chain.EndsInText ⟨table, column, textSteps segments⟩ := by
  unfold Chain.EndsInText
  fun_induction textSteps segments with
  | case1 => simp
  | case2 => simp
  | case3 segment next rest ih =>
    have hne := textSteps_ne_nil next rest
    simpa [List.dropLast_cons_of_ne_nil hne, List.getLast?_cons, List.getLast?_eq_some_getLast hne]
      using ih

theorem readChain?_chain (path : KeyPath) :
    readChain? (chain path) =
      some ⟨path.column.1, path.column.2, textSteps path.segments⟩ := by
  have hroot : readChain? (.rootColumn path) = some ⟨path.column.1, path.column.2, []⟩ := rfl
  exact readChain?_steps hroot path.segments

theorem address_of_readChain?_chain {path : KeyPath} {found : Chain}
    (hfound : readChain? (chain path) = some found) : found.address = path.address := by
  rw [readChain?_chain] at hfound
  obtain rfl := Option.some.inj hfound
  simp [Chain.address, map_fst_textSteps, KeyPath.address]

theorem chain_injective : Function.Injective chain := by
  intro path other hsame
  have hfound := readChain?_chain path
  have hother := hfound
  rw [hsame] at hother
  exact KeyPath.address_injective
    ((address_of_readChain?_chain hfound).symm.trans (address_of_readChain?_chain hother))

/-- A fragment has one chain. It leads to the field of the path and gives its text. -/
theorem collect_phrase {path : KeyPath} {request : Request} (hrequest : request.AsksField path) :
    ∃ found : Chain, (extraction.phrase path request).collect readChain? = [found] ∧
      found.address = path.address ∧ found.EndsInText := by
  have hvalues : (extraction.values path).collect readChain? = _ :=
    Expression.collect_of_read? (readChain?_chain path)
  have hpresent : (extraction.present path).collect readChain? = _ :=
    (Expression.collect_isNotNull readsOperands_readChain? _).trans hvalues
  refine ⟨_, ?_, address_of_readChain?_chain (readChain?_chain path), endsInText_textSteps _ _ _⟩
  rw [Extraction.collect_phrase extraction rfl readsOperands_readChain? hrequest]
  cases request with
  | present => exact hpresent
  | compare | memberOf | contains | orderBy | select => exact hvalues

end Phrasing.OperatorChain

/-! ### Dotted names -/

namespace Phrasing.Dotted

/-- The dotted name that a fragment for documents is about: its key, or what its content refers to
after a dollar sign. -/
def readName? : Fragment → Option Text
  | .documentFilter [(key, _)] => some key
  | .documentSort key _ => some key
  | .documentProjection _ (.string ('$' :: name)) => some name
  | .documentProjection key _ => some key
  | _ => none

theorem readName?_phrase {path : KeyPath} {request : Request} (hrequest : request.AsksField path) :
    ∃ clause, phrase path request = .ok clause ∧ readName? clause = some path.dotted := by
  cases request with
  | compare comparison value =>
    cases comparison with
    | other operator => exact absurd rfl (hrequest operator)
    | equal | notEqual | less | lessOrEqual | greater | greaterOrEqual => exact ⟨_, rfl, rfl⟩
  | select resultName => cases resultName <;> exact ⟨_, rfl, rfl⟩
  | memberOf | contains | present | orderBy => exact ⟨_, rfl, rfl⟩

end Phrasing.Dotted

/-! ### The three dialects -/

/-- In each of the three dialects that know fields, a request for a field succeeds, and its fragment
is about the field of the path and no other. Calls and chains find the column with its table, if
it has one, and the segments; a dotted name finds the same names in the same order. So an
extraction tells its path, and a dotted name does where the root has no table. -/
theorem Dialect.phrase_addresses {path : KeyPath} {request : Request}
    (hrequest : request.AsksField path) :
    (∃ calls chain clause,
      Dialect.sqlFunction.phrase path request = .ok calls ∧
      Dialect.sqlOperator.phrase path request = .ok chain ∧
      Dialect.document.phrase path request = .ok clause ∧
      (calls.collect FunctionCall.readCall? ≠ [] ∧
        ∀ reading ∈ calls.collect FunctionCall.readCall?, reading = some path.address) ∧
      (∃ found, chain.collect OperatorChain.readChain? = [found] ∧
        found.address = path.address ∧ found.EndsInText) ∧
      ∃ name, Dotted.readName? clause = some name ∧ Text.split '.' name = path.address.names) ∧
    (isIdentifier path.root = true →
      path.address = ⟨none, path.root, path.segments⟩ ∧
        path.address.names = path.root :: path.segments) ∧
    (∀ table column, path.root = table ++ '.' :: column → isIdentifier table = true →
      path.address = ⟨some table, column, path.segments⟩ ∧
        path.address.names = table :: column :: path.segments) ∧
    ∀ other : KeyPath,
      (path.address = other.address → path = other) ∧
      (FunctionCall.extracted path = FunctionCall.extracted other → path = other) ∧
      (OperatorChain.chain path = OperatorChain.chain other → path = other) ∧
      (isIdentifier path.root = true → isIdentifier other.root = true →
        path.dotted = other.dotted → path = other) := by
  refine ⟨?_, fun hroot ↦ ?_, fun table column hroot htable ↦ ?_, fun other ↦
    ⟨fun hsame ↦ KeyPath.address_injective hsame,
      fun hsame ↦ FunctionCall.extracted_injective hsame,
      fun hsame ↦ OperatorChain.chain_injective hsame, KeyPath.eq_of_dotted_eq⟩⟩
  · obtain ⟨clause, hclause, hname⟩ := Dotted.readName?_phrase hrequest
    exact ⟨_, _, clause, rfl, rfl, hclause, FunctionCall.collect_phrase hrequest,
      OperatorChain.collect_phrase hrequest, path.dotted, hname, path.split_dotted⟩
  · rw [KeyPath.address_of_identifier hroot]
    exact ⟨rfl, rfl⟩
  · rw [KeyPath.address_of_qualified hroot htable]
    exact ⟨rfl, rfl⟩

/-- A test for presence below three segments that are no identifiers, so that every leg is
quoted. -/
theorem Dialect.phrase_addresses_of_quoted_legs :
    ∃ path calls,
      KeyPath.parse "meta->first-name->$ref->9".toList = .ok path ∧
      Request.AsksField path .present ∧
      Dialect.sqlFunction.phrase path .present = .ok calls ∧
      calls.collect FunctionCall.readCall? ≠ [] ∧
      ∀ reading ∈ calls.collect FunctionCall.readCall?, reading =
        some ⟨none, "meta".toList, ["first-name".toList, "$ref".toList, "9".toList]⟩ := by
  let path : KeyPath :=
    ⟨"meta".toList, ["first-name".toList, "$ref".toList, "9".toList], by decide, by decide⟩
  have hrequest : Request.AsksField path .present := (rfl : path.isNested = true)
  obtain ⟨⟨calls, -, -, hcalls, -, -, hreadings, -, -⟩, hunqualified, -, -⟩ :=
    phrase_addresses hrequest
  have haddress := (hunqualified (by decide)).1
  exact ⟨path, calls, rfl, hrequest, hcalls, hreadings.1, fun reading hreading ↦
    (hreadings.2 reading hreading).trans (congrArg some haddress)⟩

end KeyPathQuery
