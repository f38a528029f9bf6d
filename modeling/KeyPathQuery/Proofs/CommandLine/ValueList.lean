import KeyPathQuery.Proofs.CommandLine.ScalarFilter

/-!
Lists of values from the command line. A list is one argument: commas stand between its items, white
space around an item does not count, and a blank item stands for no value. The text of any other
item is read like the value of a filter. So JSON scalars that are listed with their compact texts
come back in their order, whatever white space and blank items stand between them, and a text from
which no JSON scalar is read comes back as itself.

A comma ends an item wherever it stands, inside the quotation marks of a string too, so items with
commas are left out. A list is read up to its first comma and then behind it
(`valuesOf_append_comma`), which is one step of the induction on the items. What is read is what the
membership filter binds, and if nothing is listed the policy for empty lists decides.

Main statement: `whereIn_reads_listed_values`.
-/

set_option autoImplicit false
set_option relaxedAutoImplicit false

namespace KeyPathQuery

open Sql

namespace Json

/-- An array or an object. -/
inductive IsCompound : Json → Prop
  | array (items : List Json) : IsCompound (.array items)
  | object (fields : List (Text × Json)) : IsCompound (.object fields)

/-! ### White space in compact texts -/

theorem isBlank_of_isNumberChar {c : Char} (hnumber : isNumberChar c = true) :
    Text.isBlank c = false := by
  rw [isNumberChar, Bool.or_eq_true, List.contains_iff_mem] at hnumber
  rcases hnumber with hdigit | hmark
  · have hrange : 48 ≤ c.toNat ∧ c.toNat ≤ 57 := by simpa using Char.isDigit_iff_toNat.mp hdigit
    exact Text.isBlank_of_shown (by omega) (by omega)
  · simp only [List.mem_cons, List.not_mem_nil, or_false] at hmark
    rcases hmark with rfl | rfl | rfl | rfl <;> decide

theorem IsScalar.compact_ne_nil {value : Json} (hscalar : value.IsScalar) : value.compact ≠ [] := by
  intro hcompact
  have hread := parse?_compact hscalar
  rw [hcompact] at hread
  cases hread

/-- A compact text of a scalar has no white space at its ends. -/
theorem IsScalar.trim_compact {value : Json} (hscalar : value.IsScalar) :
    value.compact.trim = value.compact := by
  cases hscalar with
  | null => decide
  | boolean value => cases value <;> decide
  | string text =>
    have hquote : Text.isBlank '"' = false := by decide
    refine Text.trim_eq_self (fun c hc ↦ ?_) fun c hc ↦ ?_
    · obtain rfl : '"' = c := by simpa [compact, stringText] using hc
      exact hquote
    · obtain rfl : '"' = c := by
        simpa only [compact, stringText, List.getLast?_concat, Option.some.injEq] using hc
      exact hquote
  | @integer value hleast hgreatest =>
    have hchars : ∀ c ∈ (Json.integer value).compact, Text.isBlank c = false := fun c hmem ↦
      isBlank_of_isNumberChar (isNumberChar_of_mem_integerText hmem)
    exact Text.trim_eq_self (fun c hc ↦ hchars c (List.mem_of_head? hc))
      fun c hc ↦ hchars c (List.mem_of_getLast? hc)

end Json

namespace CommandLine

/-! ### Items -/

/-- A text that stands for itself in a list: it is neither blank nor has white space at its ends, it
holds no comma, and no JSON scalar is read from it. -/
structure IsPlain (text : Text) : Prop where
  ne_nil : text ≠ []
  trim_eq : text.trim = text
  comma_notMem : ',' ∉ text
  isCompound (value : Json) (hparse : Json.parse? text = some value) : value.IsCompound

/-- The text of an item in a list of values, without the white space around it, and the value that
it stands for. -/
inductive ListItem : Text → Json → Prop
  | scalar {value : Json} (hscalar : value.IsScalar) (hcomma : ',' ∉ value.compact) :
    ListItem value.compact value
  | plain {text : Text} (hplain : IsPlain text) : ListItem text (.string text)

/-- The items of a list and the values that it stands for: blank items stand for none. -/
inductive Lists : List Text → List Json → Prop
  | nil : Lists [] []
  | blank {blanks : Text} {items : List Text} {values : List Json} (hblanks : blanks.IsBlanks)
    (hrest : Lists items values) : Lists (blanks :: items) values
  | item {before text after : Text} {value : Json} {items : List Text} {values : List Json}
    (hbefore : before.IsBlanks) (hafter : after.IsBlanks) (hitem : ListItem text value)
    (hrest : Lists items values) : Lists ((before ++ text ++ after) :: items) (value :: values)

theorem comma_notMem_of_isBlanks {blanks : Text} (hblanks : blanks.IsBlanks) : ',' ∉ blanks :=
  fun hmem ↦ absurd (hblanks ',' hmem) (by decide)

namespace ListItem

variable {text : Text} {value : Json}

theorem ne_nil (hitem : ListItem text value) : text ≠ [] := by
  cases hitem with
  | scalar hscalar => exact hscalar.compact_ne_nil
  | plain hplain => exact hplain.ne_nil

theorem trim_eq (hitem : ListItem text value) : text.trim = text := by
  cases hitem with
  | scalar hscalar => exact hscalar.trim_compact
  | plain hplain => exact hplain.trim_eq

theorem comma_notMem (hitem : ListItem text value) : ',' ∉ text := by
  cases hitem with
  | scalar _ hcomma => exact hcomma
  | plain hplain => exact hplain.comma_notMem

theorem valueOf_eq (hitem : ListItem text value) : Arguments.valueOf text = value := by
  cases hitem with
  | scalar hscalar => exact Arguments.valueOf_of_parse? hscalar (Json.parse?_compact hscalar)
  | plain hplain =>
    unfold Arguments.valueOf
    cases hparse : Json.parse? text with
    | none => rfl
    | some read => cases hplain.isCompound read hparse <;> rfl

theorem comma_notMem_surrounded (hitem : ListItem text value) {before after : Text}
    (hbefore : before.IsBlanks) (hafter : after.IsBlanks) : ',' ∉ before ++ text ++ after := by
  simp [comma_notMem_of_isBlanks hbefore, comma_notMem_of_isBlanks hafter, hitem.comma_notMem]

end ListItem

/-! ### Lists -/

namespace Arguments

theorem valuesOf_of_comma_notMem {item : Text} (hcomma : ',' ∉ item) :
    valuesOf item = if item.trim = [] then [] else [valueOf item.trim] := by
  rw [valuesOf, Text.split_of_notMem hcomma]
  by_cases hblank : item.trim = [] <;> simp [hblank]

/-- A list is read up to its first comma and then behind it. -/
theorem valuesOf_append_comma {item : Text} (hcomma : ',' ∉ item) (rest : Text) :
    valuesOf (item ++ ',' :: rest) = valuesOf item ++ valuesOf rest := by
  simp only [valuesOf, Text.split_append_cons hcomma, Text.split_of_notMem hcomma, List.map_cons,
    List.map_nil, ← List.map_append, ← List.filter_append, List.singleton_append]

theorem valuesOf_join_cons {item : Text} (hcomma : ',' ∉ item) (items : List Text) :
    valuesOf (Text.join [','] (item :: items)) =
      valuesOf item ++ valuesOf (Text.join [','] items) := by
  cases items with
  | nil => exact (List.append_nil _).symm
  | cons next others =>
    rw [Text.join, List.append_assoc, List.singleton_append, valuesOf_append_comma hcomma]

theorem valuesOf_blanks {blanks : Text} (hblanks : blanks.IsBlanks) : valuesOf blanks = [] := by
  have htrim : blanks.trim = [] := by
    have htrimmed := Text.trim_append hblanks (List.forall_mem_nil _) []
    rwa [List.append_nil, List.append_nil] at htrimmed
  rw [valuesOf_of_comma_notMem (comma_notMem_of_isBlanks hblanks), if_pos htrim]

/-- An item comes back, whatever white space stands around it. -/
theorem valuesOf_item {before text after : Text} {value : Json} (hitem : ListItem text value)
    (hbefore : before.IsBlanks) (hafter : after.IsBlanks) :
    valuesOf (before ++ text ++ after) = [value] := by
  have htrim : (before ++ text ++ after).trim = text :=
    (Text.trim_append hbefore hafter text).trans hitem.trim_eq
  rw [valuesOf_of_comma_notMem (hitem.comma_notMem_surrounded hbefore hafter), htrim,
    if_neg hitem.ne_nil, hitem.valueOf_eq]

/-- The values of a list come back in their order. -/
theorem valuesOf_of_lists {items : List Text} {values : List Json} (hlists : Lists items values) :
    valuesOf (Text.join [','] items) = values := by
  induction hlists with
  | nil => rfl
  | blank hblanks _ ih =>
    rw [valuesOf_join_cons (comma_notMem_of_isBlanks hblanks), valuesOf_blanks hblanks, ih,
      List.nil_append]
  | item hbefore hafter hitem _ ih =>
    rw [valuesOf_join_cons (hitem.comma_notMem_surrounded hbefore hafter),
      valuesOf_item hitem hbefore hafter, ih, List.singleton_append]

end Arguments

end CommandLine

/-! ### Membership filters on a SQL query -/

namespace Composer

variable {composer : Composer} {query : SqlQuery} {text : Text} {path : KeyPath}
  {values : List Json}

/-- A membership filter adds its predicate, unless its list is empty and empty lists are
rejected. -/
theorem exists_fragmentFor_whereIn
    (hsql : (composer.adapterFor query.connection).dialect ≠ .document)
    (hpath : KeyPath.parse text = .ok path)
    (haccepted : values ≠ [] ∨ composer.policy = .alwaysFalse) :
    ∃ target : Expression, target.values = [] ∧
      composer.fragmentFor query (.whereIn text values) =
        .ok (.filter (.memberOf target values)) := by
  obtain ⟨extraction, hextracts⟩ := Dialect.exists_extracts (bne_iff_ne.mpr hsql)
  have hpathRead : KeyPath.read text = .ok path := by rw [KeyPath.read, hpath]
  have hrequest : (Operation.whereIn text values).request composer.policy =
      .ok (.memberOf values) := by
    refine if_neg fun hrejected ↦ ?_
    rw [Bool.and_eq_true, List.isEmpty_iff, beq_iff_eq] at hrejected
    rcases haccepted with hvalues | hpolicy
    · exact hvalues hrejected.1
    · cases hpolicy.symm.trans hrejected.2
  exact ⟨extraction.values path, hextracts.values_values path,
    fragmentFor_sqlQuery_eq_ok_iff.mpr ⟨extraction, path, .memberOf values, hextracts,
      Operation.read_eq_ok_iff.mpr ⟨hpathRead, hrequest⟩, rfl⟩⟩

/-- An empty list is rejected where the policy says so. -/
theorem fragmentFor_whereIn_nil (hpath : KeyPath.parse text = .ok path)
    (hpolicy : composer.policy = .reject) :
    composer.fragmentFor query (.whereIn text []) = .error (.emptyValueList text) := by
  simp only [fragmentFor, phrase, Operation.read, KeyPath.read, hpath, hpolicy]
  rfl

theorem run_whereIn (hsql : (composer.adapterFor query.connection).dialect ≠ .document)
    (hquery : query.statement.BindsInCondition) (hpath : KeyPath.parse text = .ok path)
    (haccepted : values ≠ [] ∨ composer.policy = .alwaysFalse) :
    let outcome := composer.run (.whereIn text values) query
    outcome.failure = none ∧
      outcome.query.compile.bindings = query.compile.bindings ++ values := by
  obtain ⟨target, htarget, hfragment⟩ := exists_fragmentFor_whereIn hsql hpath haccepted
  simp only [run_eq, hfragment, SqlQuery.extend_eq, SqlQuery.bindings_compile]
  refine ⟨trivial, ?_⟩
  have hbinds : (Fragment.filter (.memberOf target values)).BindsInPredicate := trivial
  have hvalues := hquery.values_extend hbinds
  rwa [Fragment.values, Expression.values_memberOf target values htarget] at hvalues

/-- A membership filter without values adds a predicate that nothing satisfies, or is rejected. -/
theorem run_whereIn_nil (hsql : (composer.adapterFor query.connection).dialect ≠ .document)
    (hpath : KeyPath.parse text = .ok path) :
    composer.run (.whereIn text []) query =
      match composer.policy with
      | .alwaysFalse => ⟨query.extend (.filter .alwaysFalse), none⟩
      | .reject => ⟨query, some (.emptyValueList text)⟩ := by
  cases hpolicy : composer.policy with
  | alwaysFalse =>
    obtain ⟨target, -, hfragment⟩ := exists_fragmentFor_whereIn hsql hpath (.inr hpolicy)
    rw [run_eq, hfragment]
    exact congrArg (Outcome.mk · none) (query.extend_eq _)
  | reject => rw [run_eq, fragmentFor_whereIn_nil hpath hpolicy]

end Composer

namespace CommandLine

/-- A membership filter from the command line lists exactly the values that its argument spells. On
a SQL query, after any operations, they are bound behind the values before them, in their order; and
without values the policy for empty lists decides. -/
theorem whereIn_reads_listed_values {items : List Text} {values : List Json}
    (hlists : Lists items values) {text : Text} {path : KeyPath}
    (hpath : KeyPath.parse text = .ok path) :
    Arguments.operationOf? ⟨.whereIn, [text, Text.join [','] items]⟩ =
      some (.whereIn text values) ∧
    ∀ (composer : Composer) (connection : Connection) (table : Text) (earlier : List Operation),
      (composer.adapterFor connection).dialect ≠ .document →
      let query := (composer.runAll (composer.sqlQuery connection table) earlier).1
      let outcome := composer.run (.whereIn text values) query
      (values ≠ [] ∨ composer.policy = .alwaysFalse →
        outcome.failure = none ∧
        outcome.query.compile.bindings = query.compile.bindings ++ values) ∧
      (values = [] → outcome =
        match composer.policy with
        | .alwaysFalse => ⟨query.extend (.filter .alwaysFalse), none⟩
        | .reject => ⟨query, some (.emptyValueList text)⟩) := by
  have hread : Arguments.operationOf? ⟨.whereIn, [text, Text.join [','] items]⟩ =
      some (.whereIn text (Arguments.valuesOf (Text.join [','] items))) := rfl
  rw [Arguments.valuesOf_of_lists hlists] at hread
  refine ⟨hread, fun composer connection table earlier hsql ↦ ?_⟩
  intro query outcome
  have hconnection : query.connection = connection :=
    composer.connection_runAll_sqlQuery (composer.sqlQuery connection table) earlier
  have hquery : query.statement.BindsInCondition :=
    composer.bindsInCondition_runAll (composer.sqlQuery connection table) ⟨rfl, rfl⟩ earlier
  rw [← hconnection] at hsql
  refine ⟨Composer.run_whereIn hsql hquery hpath, ?_⟩
  rintro rfl
  exact Composer.run_whereIn_nil hsql hpath

/-- Two scalars with white space around them, a blank item, and two texts that no scalar is read
from. -/
theorem whereIn_reads_listed_values_of_mixed_items :
    let path := "meta->tags".toList
    let values : List Json :=
      [.string "a b".toList, .integer 42, .string "[1]".toList, .string "3x".toList]
    let outcome := Composer.standard.run (.whereIn path values)
      (Composer.standard.sqlQuery (.ofDriver "pgsql".toList) "users".toList)
    Arguments.operationOf? ⟨.whereIn, [path, " \"a b\" ,\t,42, [1],3x ".toList]⟩ =
      some (.whereIn path values) ∧
    outcome.failure = none ∧ outcome.query.compile.bindings = values := by
  intro path values outcome
  have hpath : KeyPath.parse path = .ok ⟨"meta".toList, ["tags".toList], by decide, by decide⟩ :=
    rfl
  have harray : IsPlain "[1]".toList :=
    ⟨by decide, by decide, by decide, fun value hparse ↦ by cases hparse; exact .array _⟩
  have hword : IsPlain "3x".toList :=
    ⟨by decide, by decide, by decide, fun value hparse ↦ by cases hparse⟩
  have hnone : Text.IsBlanks [] := List.forall_mem_nil _
  have hspace : Text.IsBlanks [' '] := List.forall_mem_singleton.mpr (by decide)
  have htab : Text.IsBlanks ['\t'] := List.forall_mem_singleton.mpr (by decide)
  have hquoted : ListItem _ (.string "a b".toList) := .scalar (.string _) (by decide)
  have hnumber : ListItem _ (.integer 42) := .scalar (.integer (by decide) (by decide)) (by decide)
  have hlists : Lists _ values :=
    .item hspace hspace hquoted <| .blank htab <| .item hnone hnone hnumber <|
      .item hspace hnone (.plain harray) <| .item hnone hspace (.plain hword) .nil
  obtain ⟨hread, hruns⟩ := whereIn_reads_listed_values hlists hpath
  obtain ⟨hsucceeds, -⟩ := hruns .standard (.ofDriver "pgsql".toList) "users".toList [] (by decide)
  obtain ⟨hfailure, hbindings⟩ := hsucceeds (.inl (by simp [values]))
  exact ⟨hread, hfailure, hbindings⟩

end CommandLine

end KeyPathQuery
