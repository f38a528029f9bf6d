import KeyPathQuery.CommandLine.Arguments
import KeyPathQuery.Proofs.CommandLine.Spelling
import Mathlib.Data.List.Forall2

/-!
What the occurrences of a list of arguments ask for. An option that occurs once gives its value or
its default, and the options that name operations give one operation each, in the order of their
kinds and then of their occurrences. `Asks` says so without looking anything up, and
`ofOccurrences?_eq_some_iff` that this is what the look-up of options amounts to.

The values of an option that may be repeated can also be collected over all its occurrences and
divided into groups again. As every occurrence has as many values as its option takes, the groups
are the occurrences (`operationsOf_eq_regrouped`).

Main statements: `read_eq_ok_iff` and `operationsOf_eq_regrouped`.
-/

set_option autoImplicit false
set_option relaxedAutoImplicit false

namespace KeyPathQuery.CommandLine

/-- Where every item has a result, the results go with the items one by one. -/
theorem filterMap_eq_iff_forall₂ {α β : Type} {result? : α → Option β} {items : List α}
    (hsome : ∀ item ∈ items, (result? item).isSome = true) {results : List β} :
    items.filterMap result? = results ↔
      List.Forall₂ (fun item result ↦ result? item = some result) items results := by
  induction items generalizing results with
  | nil => rw [List.forall₂_nil_left_iff, List.filterMap_nil, eq_comm]
  | cons item rest ih =>
    obtain ⟨hitem, hrest⟩ := List.forall_mem_cons.mp hsome
    obtain ⟨first, hfirst⟩ := Option.isSome_iff_exists.mp hitem
    rw [List.filterMap_cons_some hfirst, List.forall₂_cons_left_iff]
    constructor
    · rintro rfl
      exact ⟨first, _, hfirst, (ih hrest).mp rfl, rfl⟩
    · rintro ⟨other, others, hother, hothers, rfl⟩
      obtain rfl := Option.some.inj (hfirst.symm.trans hother)
      rw [(ih hrest).mpr hothers]

/-- The operations that occurrences call for. The text of an ordering has its direction behind its
last colon, and is ascending without one. -/
inductive Occurrence.Calls : Occurrence → Operation → Prop
  | select (selection : Text) : Calls ⟨.select, [selection]⟩ (.select selection)
  | filter (path operator value : Text) :
    Calls ⟨.filter, [path, operator, value]⟩ (.filter path operator (Arguments.valueOf value))
  | whereIn (path values : Text) :
    Calls ⟨.whereIn, [path, values]⟩ (.whereIn path (Arguments.valuesOf values))
  | contains (path search : Text) : Calls ⟨.contains, [path, search]⟩ (.contains path search)
  | present (path : Text) : Calls ⟨.present, [path]⟩ (.present path)
  | orderBy (path : Text) {direction : Text} (hdirection : ':' ∉ direction) :
    Calls ⟨.orderBy, [path ++ ':' :: direction]⟩ (.orderBy path direction)
  | orderByPath {path : Text} (hpath : ':' ∉ path) :
    Calls ⟨.orderBy, [path]⟩ (.orderBy path "asc".toList)

namespace Arguments

theorem orderingOf_append_cons (path : Text) {direction : Text} (hdirection : ':' ∉ direction) :
    orderingOf (path ++ ':' :: direction) = (path, direction) := by
  have hcut : Text.cutLast ':' (path ++ ':' :: direction) = some (path, direction) :=
    Text.cutLast_eq_some_iff.mpr ⟨rfl, hdirection⟩
  simp only [orderingOf, hcut, Option.getD_some]

theorem orderingOf_of_notMem {path : Text} (hpath : ':' ∉ path) :
    orderingOf path = (path, "asc".toList) := by
  simp only [orderingOf, Text.cutLast_eq_none_iff.mpr hpath, Option.getD_none]

theorem calls_orderingOf (ordering : Text) :
    Occurrence.Calls ⟨.orderBy, [ordering]⟩
      (.orderBy (orderingOf ordering).1 (orderingOf ordering).2) := by
  cases hcut : ordering.cutLast ':' with
  | none =>
    have hpath := Text.cutLast_eq_none_iff.mp hcut
    rw [orderingOf_of_notMem hpath]
    exact .orderByPath hpath
  | some parts =>
    obtain ⟨path, direction⟩ := parts
    obtain ⟨rfl, hdirection⟩ := Text.cutLast_eq_some_iff.mp hcut
    rw [orderingOf_append_cons path hdirection]
    exact .orderBy path hdirection

theorem operationOf?_eq_some_iff {occurrence : Occurrence} {operation : Operation} :
    operationOf? occurrence = some operation ↔ occurrence.Calls operation := by
  constructor
  · intro hcalled
    obtain ⟨setting, values⟩ := occurrence
    simp only [operationOf?] at hcalled
    split at hcalled
    · cases hcalled
      exact .select _
    · cases hcalled
      exact .filter _ _ _
    · cases hcalled
      exact .whereIn _ _
    · cases hcalled
      exact .contains _ _
    · cases hcalled
      exact .present _
    · cases hcalled
      exact calls_orderingOf _
    · cases hcalled
  · intro hcalls
    cases hcalls with
    | select | filter | whereIn | contains | present => rfl
    | orderBy path hdirection => simp only [operationOf?, orderingOf_append_cons path hdirection]
    | orderByPath hpath => simp only [operationOf?, orderingOf_of_notMem hpath]

/-- An option of an operation, with as many values as it takes, calls for one. -/
theorem isSome_operationOf? {occurrence : Occurrence}
    (hsetting : occurrence.setting ∈ operationSettings)
    (hcount : occurrence.values.length = occurrence.setting.arity) :
    (operationOf? occurrence).isSome = true := by
  obtain ⟨setting, values⟩ := occurrence
  simp only [operationSettings, List.mem_cons, List.not_mem_nil, or_false] at hsetting
  rcases hsetting with rfl | rfl | rfl | rfl | rfl | rfl
  case inr.inl =>
    obtain ⟨path, operator, value, rfl⟩ := List.length_eq_three.mp hcount
    rfl
  case inr.inr.inl | inr.inr.inr.inl =>
    obtain ⟨path, second, rfl⟩ := List.length_eq_two.mp hcount
    rfl
  all_goals
    obtain ⟨text, rfl⟩ := List.length_eq_one_iff.mp hcount
    rfl

end Arguments

/-! ### All occurrences -/

/-- The occurrences of an option, in order. -/
def occurrencesOf (setting : Setting) (occurrences : List Occurrence) : List Occurrence :=
  occurrences.filter (·.setting == setting)

theorem mem_occurrencesOf_iff {setting : Setting} {occurrences : List Occurrence}
    {occurrence : Occurrence} :
    occurrence ∈ occurrencesOf setting occurrences ↔
      occurrence ∈ occurrences ∧ occurrence.setting = setting := by
  rw [occurrencesOf, List.mem_filter, beq_iff_eq]

/-- The values of all occurrences of an option, one after another. -/
def collected (setting : Setting) (occurrences : List Occurrence) : List Text :=
  (occurrencesOf setting occurrences).flatMap (·.values)

namespace Arguments

/-- What occurrences ask for. -/
structure Asks (occurrences : List Occurrence) (asked : Arguments) : Prop where
  driver : ⟨.driver, [asked.driver]⟩ ∈ occurrences
  table : ⟨.table, [asked.table]⟩ ∈ occurrences ∨
    (∀ occurrence ∈ occurrences, occurrence.setting ≠ .table) ∧ asked.table = standardTable
  config (path : Text) : asked.config = some path ↔ ⟨.config, [path]⟩ ∈ occurrences
  /-- The kinds of operations come one after another, and the occurrences of a kind in order. -/
  operations : List.Forall₂ Occurrence.Calls
    (operationSettings.flatMap (occurrencesOf · occurrences)) asked.operations
  inline : asked.inline = true ↔ ⟨.inline, []⟩ ∈ occurrences
  check : asked.check = true ↔ ⟨.check, []⟩ ∈ occurrences

section

variable {arguments : List Text} {occurrences : List Occurrence} {setting : Setting}

/-- An option without values occurs if its bare occurrence is there. -/
theorem occurs_iff (hspells : Occurrence.Spells arguments occurrences)
    (hcount : setting.arity = 0) :
    occurs occurrences setting = true ↔ ⟨setting, []⟩ ∈ occurrences := by
  simp only [occurs, List.any_eq_true, beq_iff_eq]
  constructor
  · rintro ⟨⟨named, values⟩, hmem, rfl⟩
    obtain rfl := List.length_eq_zero_iff.mp ((hspells.length_values _ hmem).trans hcount)
    exact hmem
  · intro hmem
    exact ⟨_, hmem, rfl⟩

theorem valueOf?_eq_none_iff (hspells : Occurrence.Spells arguments occurrences)
    (hcount : setting.arity = 1) :
    valueOf? occurrences setting = none ↔
      ∀ occurrence ∈ occurrences, occurrence.setting ≠ setting := by
  unfold valueOf?
  cases hfound : occurrences.find? (·.setting == setting) with
  | none => simpa using List.find?_eq_none.mp hfound
  | some occurrence =>
    have hmem := List.mem_of_find?_eq_some hfound
    have hsetting : occurrence.setting = setting := by simpa using List.find?_some hfound
    have hvalue := hspells.length_values _ hmem
    rw [hsetting, hcount] at hvalue
    obtain ⟨value, hvalue⟩ := List.length_eq_one_iff.mp hvalue
    simp only [Option.bind_some, hvalue, List.head?_cons, reduceCtorEq, false_iff, not_forall]
    exact ⟨occurrence, hmem, not_not_intro hsetting⟩

/-- The value of an option that occurs once is that of its occurrence. -/
theorem valueOf?_eq_some_iff (hspells : Occurrence.Spells arguments occurrences)
    {seen : List Setting} (hfits : Occurrence.Fits seen occurrences) (hcount : setting.arity = 1)
    (hsingle : setting.isRepeatable = false) {value : Text} :
    valueOf? occurrences setting = some value ↔ ⟨setting, [value]⟩ ∈ occurrences := by
  have hfound {value : Text} (hvalue : valueOf? occurrences setting = some value) :
      ⟨setting, [value]⟩ ∈ occurrences := by
    obtain ⟨⟨named, values⟩, hfound, hhead⟩ := Option.bind_eq_some_iff.mp hvalue
    have hmem := List.mem_of_find?_eq_some hfound
    obtain rfl : named = setting := by simpa using List.find?_some hfound
    obtain ⟨first, rfl⟩ := List.length_eq_one_iff.mp ((hspells.length_values _ hmem).trans hcount)
    obtain rfl := Option.some.inj hhead
    exact hmem
  refine ⟨hfound, fun hmem ↦ ?_⟩
  cases hvalue : valueOf? occurrences setting with
  | none => exact absurd rfl ((valueOf?_eq_none_iff hspells hcount).mp hvalue _ hmem)
  | some other =>
    have hsame := hfits.eq_of_setting_eq (hfound hvalue) hmem rfl hsingle
    simpa using hsame

/-- The operations are those that the occurrences call for, kind by kind. -/
theorem operationsOf_eq_iff (hspells : Occurrence.Spells arguments occurrences)
    {operations : List Operation} :
    operationsOf occurrences = operations ↔
      List.Forall₂ Occurrence.Calls
        (operationSettings.flatMap (occurrencesOf · occurrences)) operations := by
  -- Spelled occurrences have as many values as their options take, so each of them calls for one.
  have hcalls : ∀ occurrence ∈ operationSettings.flatMap (occurrencesOf · occurrences),
      (operationOf? occurrence).isSome = true := by
    intro occurrence hmem
    obtain ⟨setting, hsetting, hkind⟩ := List.mem_flatMap.mp hmem
    obtain ⟨hoccurs, rfl⟩ := mem_occurrencesOf_iff.mp hkind
    exact isSome_operationOf? hsetting (hspells.length_values _ hoccurs)
  have hoperations : operationsOf occurrences =
      (operationSettings.flatMap (occurrencesOf · occurrences)).filterMap operationOf? := by
    rw [List.filterMap_flatMap]
    rfl
  rw [hoperations, filterMap_eq_iff_forall₂ hcalls]
  simp only [operationOf?_eq_some_iff]

/-- Occurrences that are spelled and fit together ask for what is found in them. -/
theorem ofOccurrences?_eq_some_iff (hspells : Occurrence.Spells arguments occurrences)
    {seen : List Setting} (hfits : Occurrence.Fits seen occurrences) {asked : Arguments} :
    ofOccurrences? occurrences = some asked ↔ Asks occurrences asked := by
  have hvalue {setting : Setting} (hcount : setting.arity = 1)
      (hsingle : setting.isRepeatable = false) (value : Text) :
      valueOf? occurrences setting = some value ↔ ⟨setting, [value]⟩ ∈ occurrences :=
    valueOf?_eq_some_iff hspells hfits hcount hsingle
  constructor
  · intro hfound
    obtain ⟨driver, hdriver, rfl⟩ := Option.map_eq_some_iff.mp hfound
    refine ⟨(hvalue rfl rfl driver).mp hdriver, ?_, hvalue rfl rfl,
      (operationsOf_eq_iff hspells).mp rfl, occurs_iff hspells rfl, occurs_iff hspells rfl⟩
    cases htable : valueOf? occurrences .table with
    | some table => exact .inl ((hvalue rfl rfl table).mp htable)
    | none => exact .inr ⟨(valueOf?_eq_none_iff hspells rfl).mp htable, rfl⟩
  · intro hasks
    have hdriver := (hvalue rfl rfl asked.driver).mpr hasks.driver
    have htable : (valueOf? occurrences .table).getD standardTable = asked.table := by
      rcases hasks.table with hoccurs | ⟨habsent, hstandard⟩
      · rw [(hvalue rfl rfl asked.table).mpr hoccurs, Option.getD_some]
      · rw [(valueOf?_eq_none_iff hspells rfl).mpr habsent, Option.getD_none, hstandard]
    have hconfig : valueOf? occurrences .config = asked.config := by
      apply Option.ext
      intro path
      rw [hvalue rfl rfl, hasks.config]
    have hoperations := (operationsOf_eq_iff hspells).mpr hasks.operations
    have hinline : occurs occurrences .inline = asked.inline := by
      rw [Bool.eq_iff_iff, occurs_iff hspells rfl, hasks.inline]
    have hcheck : occurs occurrences .check = asked.check := by
      rw [Bool.eq_iff_iff, occurs_iff hspells rfl, hasks.check]
    simp only [ofOccurrences?, hdriver, htable, hconfig, hoperations, hinline, hcheck,
      Option.map_some]

/-- A list of arguments is accepted if it spells occurrences that fit together and name a driver,
and then it asks for what they ask for. -/
theorem read_eq_ok_iff {asked : Arguments} :
    read arguments = .ok asked ↔
      ∃ occurrences, Occurrence.readFrom [] arguments = .ok occurrences ∧
        Asks occurrences asked := by
  unfold read
  cases hread : Occurrence.readFrom [] arguments with
  | error ending => simp
  | ok occurrences =>
    obtain ⟨hspells, hfits⟩ := Occurrence.readFrom_eq_ok_iff.mp hread
    simp only [Except.ok.injEq, exists_eq_left', ← ofOccurrences?_eq_some_iff hspells hfits]
    cases ofOccurrences? occurrences <;> simp

end

end Arguments

end KeyPathQuery.CommandLine
