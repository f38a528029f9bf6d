import KeyPathQuery.Composer
import KeyPathQuery.Toml.Document
import KeyPathQuery.Toml.Writer

/-!
Configurations: the meaning of an empty list, and routes that send the connections with a text in
their identity to a dialect. A configuration is a TOML text. Settings that are missing have their
defaults, and settings that are not known are skipped. The routes are registered in order, each in
front of the built-in adapters and of the routes before it, so a later one that matches wins over
an earlier one; a route that repeats an earlier one is not registered again.
-/

set_option autoImplicit false
set_option relaxedAutoImplicit false

namespace KeyPathQuery

/-- A text to look for in the identity of a connection, and the dialect of the connections that
have it. -/
structure Route where
  fragment : Text
  dialect : Dialect
deriving DecidableEq, Repr

/-- What can be configured. -/
structure Configuration where
  policy : EmptyListPolicy := .alwaysFalse
  routes : List Route := []
deriving DecidableEq, Repr

/-- Why a text is no configuration. -/
inductive ConfigurationError where
  /-- It is no TOML, or a setting has no fitting value. -/
  | invalid
  /-- The text to look for is blank in the route to a dialect. -/
  | emptyMatch (dialect : Dialect)
deriving DecidableEq, Repr

namespace ConfigurationError

/-- What a message says of a route with a blank text. -/
def emptyMatchMessage (dialect : Dialect) : Text :=
  "dialect alias for ".toList ++ dialect.name ++ " has an empty match".toList

end ConfigurationError

namespace Configuration

/-- The configuration in which nothing is set. -/
def standard : Configuration := {}

/-! ### Reading -/

/-- The name of a choice: a string, or a table in which the name stands for nothing. -/
def choice? (value : Toml) : Option Text :=
  match value with
  | .string name => some name
  | .table _ [(name, .array [])] => some name
  | .table _ [(name, .table _ [])] => some name
  | _ => none

/-- The route that a text and a choice of a dialect make. -/
def route? (fragment dialect : Toml) : Option Route :=
  match fragment with
  | .string text => do
    let dialect ← Dialect.ofName? (← choice? dialect)
    pure ⟨text, dialect⟩
  | _ => none

/-- The route of a table with its two settings. -/
def routeOfEntries? (entries : Toml.Entries) : Option Route := do
  let fragment ← entries.get? "match".toList
  let dialect ← entries.get? "dialect".toList
  route? fragment dialect

/-- The route of a table, or of an array that holds the settings in order. -/
def routeOf? (value : Toml) : Option Route :=
  match value with
  | .table _ entries => routeOfEntries? entries
  | .array (fragment :: dialect :: _) => route? fragment dialect
  | _ => none

/-- The routes that the value of their setting lists. -/
def routesOf? (value : Toml) : Option (List Route) :=
  match value with
  | .array items => items.mapM routeOf?
  | .tables members => members.mapM routeOfEntries?
  | _ => none

/-- The configuration that the table of a document holds. -/
def ofEntries? (entries : Toml.Entries) : Option Configuration := do
  let policy ←
    match entries.get? "empty_in".toList with
    | some value => (choice? value).bind EmptyListPolicy.ofName?
    | none => some .alwaysFalse
  let routes ←
    match entries.get? "dialects".toList with
    | some value => routesOf? value
    | none => some []
  pure ⟨policy, routes⟩

/-- The dialect of the first route with a blank text. -/
def firstBlank? (configuration : Configuration) : Option Dialect :=
  (configuration.routes.find? (·.fragment.trim.isEmpty)).map (·.dialect)

/-- The configuration that a text spells. -/
def parse (text : Text) : Except ConfigurationError Configuration :=
  match (Toml.parse? text).bind ofEntries? with
  | none => .error .invalid
  | some configuration =>
    match configuration.firstBlank? with
    | some dialect => .error (.emptyMatch dialect)
    | none => .ok configuration

/-! ### Writing -/

/-- A route as a table of a TOML text. -/
def routeText (route : Route) : Text :=
  "\n[[dialects]]\nmatch = ".toList ++ Toml.stringText route.fragment ++
    "\ndialect = ".toList ++ Toml.stringText route.dialect.name ++ ['\n']

/-- A configuration as a TOML text. -/
def text (configuration : Configuration) : Text :=
  "empty_in = ".toList ++ Toml.stringText configuration.policy.name ++ ['\n'] ++
    if configuration.routes.isEmpty then "dialects = []\n".toList
    else configuration.routes.flatMap routeText

/-! ### Meaning -/

/-- The adapters of the routes, in order. -/
def adapters (configuration : Configuration) : List Adapter :=
  configuration.routes.map fun route ↦ .route route.fragment.trim route.dialect

/-- The built-in adapters with the routes in front. -/
def registry (configuration : Configuration) : Registry :=
  Registry.builtIn.registerAll configuration.adapters

/-- The composer that a configuration describes. -/
def composer (configuration : Configuration) : Composer where
  registry := configuration.registry
  policy := configuration.policy

end Configuration

end KeyPathQuery
