import KeyPathQuery.Configuration
import KeyPathQuery.Proofs.Toml.StatementText

/-!
A configuration is read back from the text it is saved as. The text is lines of which each is read
as a statement, whatever the fragments of the routes are. The first assignment stands before all
headers, and every header of a route adds a table to those of the routes before it. So the table of
the text has the name of the policy and a table for each route, and the routes are read from these
in order.

What is read is then checked. A route whose fragment is blank makes the saved text no
configuration, and the first such route is the one that the error is about.

Main statement: `parse_text_iff`.
-/

set_option autoImplicit false
set_option relaxedAutoImplicit false

namespace KeyPathQuery

open Toml

theorem EmptyListPolicy.ofName?_name (policy : EmptyListPolicy) :
    ofName? policy.name = some policy := by
  cases policy <;> decide

/-! ### The saved routes -/

namespace Route

/-- The statements that a route is saved as. -/
def statements (route : Route) : List Statement :=
  [.headerOfSeveral ["dialects".toList],
    .assignment ["match".toList] (.string route.fragment),
    .assignment ["dialect".toList] (.string route.dialect.name)]

/-- The section of these statements. -/
def part (route : Route) : Toml.Section :=
  ⟨.several ["dialects".toList],
    [(["match".toList], .string route.fragment), (["dialect".toList], .string route.dialect.name)]⟩

/-- The table of a route. -/
def entries (route : Route) : Entries :=
  [("match".toList, .string route.fragment), ("dialect".toList, .string route.dialect.name)]

/-- The text of a route is read as its statements. -/
theorem readStatements?_routeText (route : Route) (rest : Text) :
    readStatements? (Configuration.routeText route ++ rest) =
      (readStatements? rest).map (route.statements ++ ·) := by
  have hdialects : IsBareKey "dialects".toList := IsBareKey.of_all (by decide)
  have hmatch : IsBareKey "match".toList := IsBareKey.of_all (by decide)
  have hdialect : IsBareKey "dialect".toList := IsBareKey.of_all (by decide)
  have htext : Configuration.routeText route ++ rest = '\n' :: ("[[".toList ++ ("dialects".toList ++
      ("]]\n".toList ++ ("match".toList ++ (" = ".toList ++ (stringText route.fragment ++ '\n' ::
        ("dialect".toList ++ (" = ".toList ++ (stringText route.dialect.name ++
          '\n' :: rest))))))))) := by
    unfold Configuration.routeText
    simp only [List.append_assoc]
    rfl
  rw [htext, readStatements?_lineBreak, readStatements?_headerOfSeveral hdialects,
    readStatements?_assignment hmatch (isWrittenAs_stringText _),
    readStatements?_assignment hdialect (isWrittenAs_stringText _), Option.map_map, Option.map_map]
  rfl

theorem readStatements?_routesText (routes : List Route) :
    readStatements? (routes.flatMap Configuration.routeText) =
      some (routes.flatMap statements) := by
  induction routes with
  | nil =>
    rw [List.flatMap_nil, readStatements?]
    rfl
  | cons route others ih =>
    rw [List.flatMap_cons, readStatements?_routeText, ih]
    rfl

theorem sectionsOf_routes (routes : List Route) :
    sectionsOf (routes.flatMap statements) = ([], routes.map part) := by
  induction routes with
  | nil => rfl
  | cons route others ih =>
    have hroute (rest : List Statement) : sectionsOf (route.statements ++ rest) =
        ([], ⟨route.part.heading, route.part.assignments ++ (sectionsOf rest).1⟩ ::
          (sectionsOf rest).2) := rfl
    rw [List.flatMap_cons, hroute, ih, List.append_nil]
    rfl

theorem routeOfEntries?_entries (route : Route) :
    Configuration.routeOfEntries? route.entries = some route := by
  have hdialect : Dialect.ofName? route.dialect.name = some route.dialect :=
    Dialect.ofName?_eq_some_iff.mpr rfl
  have hroute : Configuration.routeOfEntries? route.entries =
      (Dialect.ofName? route.dialect.name).bind fun dialect ↦ some ⟨route.fragment, dialect⟩ := rfl
  rw [hroute, hdialect]
  rfl

theorem mapM_routeOfEntries? (routes : List Route) :
    (routes.map entries).mapM Configuration.routeOfEntries? = some routes := by
  induction routes with
  | nil => rfl
  | cons route others ih =>
    rw [List.map_cons, List.mapM_cons, routeOfEntries?_entries, ih]
    rfl

end Route

/-! ### The saved configuration -/

namespace Configuration

/-- The statements that a configuration is saved as. -/
def statements (configuration : Configuration) : List Statement :=
  .assignment ["empty_in".toList] (.string configuration.policy.name) ::
    if configuration.routes.isEmpty then [.assignment ["dialects".toList] (.array [])]
    else configuration.routes.flatMap Route.statements

/-- The table that a configuration is saved as. -/
def entries (configuration : Configuration) : Entries :=
  [("empty_in".toList, .string configuration.policy.name),
    ("dialects".toList,
      if configuration.routes.isEmpty then .array []
      else .tables (configuration.routes.map Route.entries))]

theorem statementsOf?_text (configuration : Configuration) :
    statementsOf? configuration.text = some configuration.statements := by
  have hempty : IsBareKey "empty_in".toList := IsBareKey.of_all (by decide)
  have hdialects : IsBareKey "dialects".toList := IsBareKey.of_all (by decide)
  have hroutes : readStatements? (if configuration.routes.isEmpty then "dialects = []\n".toList
      else configuration.routes.flatMap routeText) = some (if configuration.routes.isEmpty then
        [.assignment ["dialects".toList] (.array [])]
      else configuration.routes.flatMap Route.statements) := by
    split_ifs
    · refine (readStatements?_assignment hdialects isWrittenAs_emptyArray []).trans ?_
      rw [readStatements?]
      rfl
    · exact Route.readStatements?_routesText configuration.routes
  have htext : configuration.text = "empty_in".toList ++ (" = ".toList ++
      (stringText configuration.policy.name ++ '\n' ::
        if configuration.routes.isEmpty then "dialects = []\n".toList
        else configuration.routes.flatMap routeText)) := by
    unfold text
    simp only [List.append_assoc]
    rfl
  have hmark (rest : Text) :
      skipByteOrderMark ("empty_in".toList ++ rest) = "empty_in".toList ++ rest := rfl
  rw [statementsOf?, htext, hmark,
    readStatements?_assignment hempty (isWrittenAs_stringText _), hroutes]
  rfl

/-- Each section of a route adds its table to those of the routes before it. -/
theorem foldlM_addSection? (policy : Toml) (before : List Entries) (routes : List Route) :
    (routes.map Route.part).foldlM addSection?
      [("empty_in".toList, policy), ("dialects".toList, .tables before)] =
        some [("empty_in".toList, policy),
          ("dialects".toList, .tables (before ++ routes.map Route.entries))] := by
  induction routes generalizing before with
  | nil => simp
  | cons route others ih =>
    have hadd : addSection? [("empty_in".toList, policy), ("dialects".toList, .tables before)]
        route.part = some [("empty_in".toList, policy),
          ("dialects".toList, .tables (before ++ [route.entries]))] := rfl
    rw [List.map_cons, List.foldlM_cons, hadd]
    refine (ih (before ++ [route.entries])).trans ?_
    rw [List.append_assoc]
    rfl

theorem tableOf?_statements (configuration : Configuration) :
    tableOf? configuration.statements = some configuration.entries := by
  obtain ⟨policy, routes⟩ := configuration
  cases routes with
  | nil => rfl
  | cons route others =>
    have hstatements : statements ⟨policy, route :: others⟩ =
        .assignment ["empty_in".toList] (.string policy.name) ::
          (route :: others).flatMap Route.statements := rfl
    have hassignment (path : List Text) (value : Toml) (rest : List Statement) :
        sectionsOf (.assignment path value :: rest) =
          ((path, value) :: (sectionsOf rest).1, (sectionsOf rest).2) := rfl
    have hsections : sectionsOf (statements ⟨policy, route :: others⟩) =
        ([(["empty_in".toList], .string policy.name)], (route :: others).map Route.part) := by
      rw [hstatements, hassignment, Route.sectionsOf_routes]
    have hadd : addSection? [("empty_in".toList, .string policy.name)] route.part =
        some [("empty_in".toList, .string policy.name),
          ("dialects".toList, .tables [route.entries])] := rfl
    have hstart : Entries.assignAll? [] [(["empty_in".toList], .string policy.name)] =
        some [("empty_in".toList, .string policy.name)] := rfl
    simp only [tableOf?, hsections, hstart, List.map_cons, List.foldlM_cons, hadd,
      Option.bind_eq_bind, Option.bind_some, foldlM_addSection?]
    rfl

theorem ofEntries?_entries (configuration : Configuration) :
    ofEntries? configuration.entries = some configuration := by
  have hpolicy := EmptyListPolicy.ofName?_name configuration.policy
  have hroutes : routesOf? (if configuration.routes.isEmpty then .array []
      else .tables (configuration.routes.map Route.entries)) = some configuration.routes := by
    split_ifs with hempty
    · rw [List.isEmpty_iff.mp hempty]
      rfl
    · exact Route.mapM_routeOfEntries? configuration.routes
  have hfound : ofEntries? configuration.entries =
      (EmptyListPolicy.ofName? configuration.policy.name).bind fun policy ↦
        (routesOf? (if configuration.routes.isEmpty then .array []
          else .tables (configuration.routes.map Route.entries))).bind fun routes ↦
            some ⟨policy, routes⟩ := rfl
  rw [hfound, hpolicy, hroutes]
  rfl

/-- What a configuration is saved as is read as that configuration, before it is checked. -/
theorem read_text (configuration : Configuration) :
    (Toml.parse? configuration.text).bind ofEntries? = some configuration := by
  have htable : Toml.parse? configuration.text = some configuration.entries := by
    rw [Toml.parse?, statementsOf?_text]
    exact tableOf?_statements configuration
  rw [htable]
  exact ofEntries?_entries configuration

/-! ### The check -/

theorem firstBlank?_eq_none_iff {configuration : Configuration} :
    configuration.firstBlank? = none ↔
      ∀ route ∈ configuration.routes, route.fragment.trim ≠ [] := by
  simp [firstBlank?]

theorem firstBlank?_eq_some_iff {configuration : Configuration} {dialect : Dialect} :
    configuration.firstBlank? = some dialect ↔ ∃ before route after,
      configuration.routes = before ++ route :: after ∧
        (∀ earlier ∈ before, earlier.fragment.trim ≠ []) ∧ route.fragment.trim = [] ∧
          route.dialect = dialect := by
  unfold firstBlank?
  rw [Option.map_eq_some_iff]
  constructor
  · rintro ⟨route, hfound, hdialect⟩
    obtain ⟨hblank, before, after, hroutes, hbefore⟩ := List.find?_eq_some_iff_append.mp hfound
    refine ⟨before, route, after, hroutes, fun earlier hearlier ↦ ?_, ?_, hdialect⟩
    · simpa using hbefore earlier hearlier
    · simpa using hblank
  · rintro ⟨before, route, after, hroutes, hbefore, hblank, hdialect⟩
    refine ⟨route, List.find?_eq_some_iff_append.mpr ⟨?_, before, after, hroutes, ?_⟩, hdialect⟩
    · simpa using hblank
    · exact fun earlier hearlier ↦ by simpa using hbefore earlier hearlier

theorem parse_text (configuration : Configuration) :
    parse configuration.text = match configuration.firstBlank? with
      | some dialect => .error (.emptyMatch dialect)
      | none => .ok configuration := by
  have hread := read_text configuration
  unfold parse
  split
  · next hnone =>
    rw [hread] at hnone
    cases hnone
  · next read hsome =>
    rw [hread] at hsome
    obtain rfl := Option.some.inj hsome
    rfl

/-- A saved configuration is read back as it was if and only if no fragment is blank, and it is
refused for a dialect if and only if this is the one of the first route with a blank fragment. -/
theorem parse_text_iff (configuration : Configuration) :
    (parse configuration.text = .ok configuration ↔
      ∀ route ∈ configuration.routes, route.fragment.trim ≠ []) ∧
    ∀ dialect, parse configuration.text = .error (.emptyMatch dialect) ↔
      ∃ before route after, configuration.routes = before ++ route :: after ∧
        (∀ earlier ∈ before, earlier.fragment.trim ≠ []) ∧ route.fragment.trim = [] ∧
          route.dialect = dialect := by
  rw [parse_text, ← firstBlank?_eq_none_iff]
  simp only [← firstBlank?_eq_some_iff]
  cases configuration.firstBlank? with
  | none => simp
  | some blank => simp

example : text ⟨.reject, [⟨"it's".toList, .document⟩]⟩ =
    "empty_in = \"reject\"\n\n[[dialects]]\nmatch = \"it's\"\ndialect = \"document\"\n".toList := by
  decide

end Configuration

end KeyPathQuery
