import KeyPathQuery.Phrasing
import KeyPathQuery.Proofs.Document.Matching
import KeyPathQuery.Proofs.Sql.Evaluation

/-!
One meaning in three dialects. A document without arrays is stored three times: in a column of a
store with functions for JSON, in a column of a store with operators for JSON, and under a field in
a store of documents (`Copies`). The three phrasings of a request are a condition on calls, a
condition on a chain of steps, and a clause; they find their copy under one and the same condition
on the value that the segments of the path lead to.

A presence test asks for a value that is there and not null. Comparisons with strings are told for
values that are missing or strings themselves: what the text of any other value is, stores do not
agree on.

Main statement: `Copies.same_meaning`.
-/

set_option autoImplicit false
set_option relaxedAutoImplicit false

namespace KeyPathQuery

open Sql Phrasing

/-- A document in three stores. -/
structure Copies (root : Text) (stored : Json) where
  calls : CallStore
  callRow : Row
  callRow_root : callRow none root = .json stored
  chains : ChainStore
  chainRow : Row
  chainRow_root : chainRow none root = .json stored
  documents : DocumentStore
  document : Json.Fields
  document_root : document.get? root = some stored

/-- A document in plain stores. -/
def Copies.plain (root : Text) (stored : Json) : Copies root stored where
  calls := Plain.callStore
  callRow _ _ := .json stored
  callRow_root := rfl
  chains := Plain.chainStore
  chainRow _ _ := .json stored
  chainRow_root := rfl
  documents := .plain
  document := [(root, stored)]
  document_root := by simp [Json.Fields.get?]

/-- A request has a predicate in either dialect of SQL and a clause in the one of documents, and each
of them finds its copy exactly if a condition is met. -/
def Copies.Finds {root : Text} {stored : Json} (copies : Copies root stored) (path : KeyPath)
    (request : Request) (condition : Prop) : Prop :=
  ∃ (call chain : Expression) (clause : Json.Fields),
    Dialect.sqlFunction.phrase path request = .ok (.filter call) ∧
    Dialect.sqlOperator.phrase path request = .ok (.filter chain) ∧
    Dialect.document.phrase path request = .ok (.documentFilter clause) ∧
    (call.holdsIn copies.calls.toStore copies.callRow = true ↔ condition) ∧
    (chain.holdsIn copies.chains.toStore copies.chainRow = true ↔ condition) ∧
    (copies.documents.satisfies copies.document clause = true ↔ condition)

theorem Sql.Expression.valueIn_rootColumn (store : Store) (row : Row) {path : KeyPath}
    (hroot : isIdentifier path.root = true) :
    (rootColumn path).valueIn store row = row none path.root := by
  simp [rootColumn, valueIn, KeyPath.column, cut_point_identifier hroot]

/-! ### Calls -/

namespace Phrasing.FunctionCall

variable {store : CallStore} {row : Row} {path : KeyPath} {stored : Json}
  (hroot : (Expression.rootColumn path).valueIn store.toStore row = .json stored)
include hroot

theorem valueIn_extracted :
    (extracted path).valueIn store.toStore row = .ofJson? (stored.at? path.segments) := by
  simp only [extracted, Expression.valueIn, Expression.valuesIn, hroot]
  exact store.call_extract (readLiteral?_segments path) path.segments_areNames stored

theorem valueIn_unquoted {content : Option Text}
    (hcontent : stored.at? path.segments = content.map .string) :
    (unquoted path).valueIn store.toStore row = .ofText? content := by
  simp only [unquoted, Expression.valueIn, Expression.valuesIn, valueIn_extracted hroot, hcontent]
  cases content with
  | none => exact store.call_unquote_null
  | some content => exact store.call_unquote_string content

theorem holdsIn_containsPath :
    (Expression.call "JSON_CONTAINS_PATH".toList
      [.rootColumn path, .string "one".toList, pathLiteral path]).holdsIn store.toStore row =
        (stored.at? path.segments).isSome := by
  simp only [Expression.holdsIn, Expression.valueIn, Expression.valuesIn, hroot]
  refine (congrArg (·.truth? == some true)
    (store.call_containsPath (readLiteral?_segments path) path.segments_areNames stored)).trans ?_
  cases (stored.at? path.segments).isSome <;> rfl

theorem holdsIn_type_iff {value : Json} (hvalue : stored.at? path.segments = some value) :
    (Expression.binary (.call "JSON_TYPE".toList [extracted path]) .notEqual
      (.string "NULL".toList)).holdsIn store.toStore row = true ↔ value ≠ .null := by
  simp only [Expression.holdsIn, Expression.valueIn, Expression.valuesIn, Expression.string,
    Literal.value, valueIn_extracted hroot, hvalue, Value.ofJson?, store.call_type,
    store.operate_notEqual_text]
  have hname := store.typeName_eq_null_iff value
  rw [Value.truth?, beq_iff_eq, Option.some.injEq, bne_iff_ne, Ne, hname]

/-- The path is contained, and the type of what is there is not that of null. -/
theorem holdsIn_present_iff (hnested : path.isNested = true) :
    (present path).holdsIn store.toStore row = true ↔
      ∃ value, stored.at? path.segments = some value ∧ value ≠ .null := by
  rw [present, if_pos hnested, Expression.holdsIn_nested, Expression.holdsIn_and,
    Bool.and_eq_true, holdsIn_containsPath hroot]
  cases hvalue : stored.at? path.segments with
  | none => simp
  | some value =>
    rw [holdsIn_type_iff hroot hvalue]
    simp

end Phrasing.FunctionCall

/-! ### Chains -/

namespace Phrasing.OperatorChain

variable {store : ChainStore} {row : Row}

/-- A chain goes down from whatever stands in front of it, and ends in a text. -/
theorem valueIn_steps {segments : List Text} (hsegments : segments ≠ []) {target : Expression}
    {value : Option Json} (htarget : target.valueIn store.toStore row = .ofJson? value) :
    (steps target segments).valueIn store.toStore row =
      .asText store.textOf (value.bind (·.at? segments)) := by
  induction segments generalizing target value with
  | nil => exact absurd rfl hsegments
  | cons segment rest ih =>
    have hstep (asText : Bool) : (Expression.jsonAccess target (.string segment) asText).valueIn
        store.toStore row = store.step (.ofJson? value) (.text segment) asText := by
      simp only [Expression.valueIn, htarget]
      rfl
    cases rest with
    | nil =>
      rw [steps, hstep]
      cases value with
      | none => exact store.step_null _ _
      | some value =>
        have htext := store.step_text value segment
        simpa [Value.ofJson?] using htext
    | cons next others =>
      have htarget' : (Expression.jsonAccess target (.string segment) false).valueIn
          store.toStore row = .ofJson? (value.bind (·.member? segment)) := by
        rw [hstep]
        cases value with
        | none => exact store.step_null _ _
        | some value => exact store.step_json value segment
      rw [steps, ih (List.cons_ne_nil _ _) htarget', Option.bind_assoc]
      simp only [Json.at?_cons]

variable {path : KeyPath} {stored : Json}
  (hroot : (Expression.rootColumn path).valueIn store.toStore row = .json stored)
  (hnested : path.isNested = true)
include hroot hnested

theorem valueIn_chain :
    (chain path).valueIn store.toStore row = .asText store.textOf (stored.at? path.segments) := by
  have hsegments : path.segments ≠ [] := by simpa [KeyPath.isNested] using hnested
  have hvalue : (Expression.rootColumn path).valueIn store.toStore row = .ofJson? (some stored) :=
    hroot
  rw [chain, valueIn_steps hsegments hvalue, Option.bind_some]

theorem holdsIn_isNotNull_chain_iff :
    (Expression.isNotNull (chain path)).holdsIn store.toStore row = true ↔
      ∃ value, stored.at? path.segments = some value ∧ value ≠ .null := by
  rw [Expression.holdsIn_isNotNull, valueIn_chain hroot hnested, Bool.not_eq_true',
    Value.isNull_asText_iff]

theorem valueIn_chain_of_string {content : Option Text}
    (hcontent : stored.at? path.segments = content.map .string) :
    (chain path).valueIn store.toStore row = .ofText? content := by
  rw [valueIn_chain hroot hnested, hcontent, Value.asText_map_string]

end Phrasing.OperatorChain

/-! ### Clauses -/

namespace Phrasing.Dotted

variable {store : DocumentStore} {document : Json.Fields} {path : KeyPath} {stored : Json}
  (hidentifier : isIdentifier path.root = true) (hroot : document.get? path.root = some stored)
  (hstored : stored.hasNoArrays = true)
include hidentifier hroot hstored

theorem satisfies_present_iff :
    store.satisfies document
        [(path.dotted, .object [("$exists".toList, .boolean true), ("$ne".toList, .null)])] = true ↔
      ∃ value, stored.at? path.segments = some value ∧ value ≠ .null := by
  rw [store.satisfies_dotted hidentifier hroot hstored rfl, List.all_cons, List.all_cons,
    List.all_nil, Bool.and_true, Bool.and_eq_true]
  exact store.holds_exists_and_ne_null_iff _

variable {content : Option Text} (hcontent : stored.at? path.segments = content.map .string)
include hcontent

theorem satisfies_equal_iff (operand : Text) :
    store.satisfies document [(path.dotted, .object [("$eq".toList, .string operand)])] = true ↔
      content = some operand := by
  rw [store.satisfies_dotted hidentifier hroot hstored rfl, List.all_cons, List.all_nil,
    Bool.and_true, hcontent, store.holds_equal]
  exact store.equals_string_iff content operand

theorem satisfies_memberOf_iff (operands : List Text) :
    store.satisfies document
        [(path.dotted, .object [("$in".toList, .array (operands.map .string))])] = true ↔
      ∃ operand ∈ operands, content = some operand := by
  rw [store.satisfies_dotted hidentifier hroot hstored rfl, List.all_cons, List.all_nil,
    Bool.and_true, hcontent, store.holds_memberOf, List.any_map, List.any_eq_true]
  simp only [Function.comp_apply, store.equals_string_iff]

end Phrasing.Dotted

/-! ### The three dialects -/

namespace Copies

/-- However a document without arrays is stored, a presence test on a nested key path finds it in
all three dialects exactly if the segments lead to a value that is not null. Where they lead to a
string or to nothing, equality with a string finds it exactly if they lead to that string, and
membership in a list of strings, which may be empty, exactly if they lead to one of them. -/
theorem same_meaning {path : KeyPath} (hnested : path.isNested = true)
    (hidentifier : isIdentifier path.root = true) {stored : Json}
    (hstored : stored.hasNoArrays = true) (copies : Copies path.root stored) :
    let value := stored.at? path.segments
    copies.Finds path .present (∃ found, value = some found ∧ found ≠ .null) ∧
    ((∀ found, value = some found → ∃ content, found = .string content) →
      (∀ operand : Text, copies.Finds path (.compare .equal (.string operand))
        (value = some (.string operand))) ∧
      ∀ operands : List Text, copies.Finds path (.memberOf (operands.map .string))
        (∃ operand ∈ operands, value = some (.string operand))) := by
  intro value
  have hcalls : (Expression.rootColumn path).valueIn copies.calls.toStore copies.callRow =
      .json stored :=
    (Expression.valueIn_rootColumn _ _ hidentifier).trans copies.callRow_root
  have hchains : (Expression.rootColumn path).valueIn copies.chains.toStore copies.chainRow =
      .json stored :=
    (Expression.valueIn_rootColumn _ _ hidentifier).trans copies.chainRow_root
  have hdocument := copies.document_root
  refine ⟨⟨_, _, _, rfl, rfl, rfl, ?_, ?_, ?_⟩, fun hstring ↦ ?_⟩
  · exact FunctionCall.holdsIn_present_iff hcalls hnested
  · exact OperatorChain.holdsIn_isNotNull_chain_iff hchains hnested
  · exact Dotted.satisfies_present_iff hidentifier hdocument hstored
  · obtain ⟨content, hcontent⟩ : ∃ content : Option Text, value = content.map .string := by
      cases hvalue : value with
      | none => exact ⟨none, rfl⟩
      | some found =>
        obtain ⟨content, rfl⟩ := hstring found hvalue
        exact ⟨some content, rfl⟩
    have hcall := FunctionCall.valueIn_unquoted hcalls hcontent
    have hchain := OperatorChain.valueIn_chain_of_string hchains hnested hcontent
    have hsame (operand : Text) : value = some (.string operand) ↔ content = some operand := by
      rw [hcontent]
      cases content <;> simp
    simp only [hsame]
    refine ⟨fun operand ↦ ⟨_, _, _, rfl, rfl, rfl, ?_, ?_, ?_⟩,
      fun operands ↦ ⟨_, _, _, rfl, rfl, rfl, ?_, ?_, ?_⟩⟩
    · exact Expression.holdsIn_equal_iff hcall operand
    · exact Expression.holdsIn_equal_iff hchain operand
    · exact Dotted.satisfies_equal_iff hidentifier hdocument hstored hcontent operand
    · exact Expression.holdsIn_memberOf_iff hcall operands
    · exact Expression.holdsIn_memberOf_iff hchain operands
    · exact Dotted.satisfies_memberOf_iff hidentifier hdocument hstored hcontent operands

/-- A member that is not null below a name that is quoted in calls. -/
theorem same_meaning_of_plain :
    let path : KeyPath := ⟨"meta".toList, ["profile".toList, "first-name".toList],
      by decide, by decide⟩
    let stored : Json := .object [("profile".toList, .object
      [("first-name".toList, .string "Ada".toList), ("nick".toList, .null)])]
    let copies := plain path.root stored
    path.isNested = true ∧ isIdentifier path.root = true ∧ stored.hasNoArrays = true ∧
      stored.at? path.segments = some (.string "Ada".toList) ∧
      copies.Finds path .present True ∧
      copies.Finds path (.compare .equal (.string "Ada".toList)) True ∧
      copies.Finds path (.memberOf []) False := by
  intro path stored copies
  have hvalue : stored.at? path.segments = some (.string "Ada".toList) := rfl
  have hnested : path.isNested = true := rfl
  have hidentifier : isIdentifier path.root = true := by decide
  have hstored : stored.hasNoArrays = true := rfl
  obtain ⟨hpresent, hstrings⟩ := same_meaning hnested hidentifier hstored copies
  obtain ⟨hequal, hmemberOf⟩ := hstrings fun found hfound ↦
    ⟨_, Option.some.inj (hfound.symm.trans hvalue)⟩
  refine ⟨hnested, hidentifier, hstored, hvalue, ?_, ?_, ?_⟩
  · simpa [hvalue] using hpresent
  · simpa [hvalue] using hequal "Ada".toList
  · simpa using hmemberOf []

/-- Beyond strings the dialects part: the text of a number equals a string, and the number does not. -/
example :
    let path : KeyPath := ⟨"meta".toList, ["score".toList], by decide, by decide⟩
    let copies := plain path.root (.object [("score".toList, .integer 5)])
    (Phrasing.compareValue (OperatorChain.chain path) .equal (.string ['5'])).holdsIn
        copies.chains.toStore copies.chainRow = true ∧
      copies.documents.satisfies copies.document
        [(path.dotted, .object [("$eq".toList, .string ['5'])])] = false := by
  decide

end Copies

end KeyPathQuery
