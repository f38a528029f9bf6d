import KeyPathQuery.Configuration
import KeyPathQuery.Proofs.Registry.Refusal
import Mathlib.Data.List.Basic

/-!
Which adapter a configuration gives a connection. Routes are registered in order, each in front of
the ones before it, so a later match wins over an earlier one. But the name of a route tells its
dialect and its fragment, trimmed and in lower case, and nothing else. So a route that repeats an
earlier one is refused, the earlier one keeps its place, and a route between the two wins over both
(`not_forall_last_match_wins`).

The routes that count are therefore the first uses (`accepted_adapters`). Among them the last match
wins, and so does the last match of all routes if it repeats no earlier one.

Main statement: `adapterFor_composer`.
-/

set_option autoImplicit false
set_option relaxedAutoImplicit false

namespace KeyPathQuery

namespace Route

/-- The adapter that a route is registered as. -/
def adapter (route : Route) : Adapter :=
  .route route.fragment.trim route.dialect

/-- A route is meant for the connections that have its fragment, trimmed, in their identity, both
in lower case. -/
def Matches (route : Route) (connection : Connection) : Prop :=
  ∃ identity ∈ connection.identities, route.fragment.trim.lowerCase <:+: identity.lowerCase

/-- A route repeats another if they have the same dialect, and the same fragment when trimmed and
in lower case. -/
def Repeats (route earlier : Route) : Prop :=
  route.dialect = earlier.dialect ∧
    route.fragment.trim.lowerCase = earlier.fragment.trim.lowerCase

instance (route earlier : Route) : Decidable (route.Repeats earlier) :=
  inferInstanceAs (Decidable (_ ∧ _))

/-- The routes that repeat no earlier one. -/
def firstUses : List Route → List Route
  | [] => []
  | route :: rest => route :: (firstUses rest).filter fun later ↦ !decide (later.Repeats route)

/-! ### One route -/

theorem accepts_adapter_iff {route : Route} {connection : Connection} :
    route.adapter.accepts connection = true ↔ route.Matches connection :=
  Connection.identityContains_singleton_iff

/-- A route that repeats another has its connections. -/
theorem Repeats.matches_iff {route earlier : Route} (hrepeats : route.Repeats earlier)
    (connection : Connection) : route.Matches connection ↔ earlier.Matches connection := by
  simp only [Matches, hrepeats.2]

theorem name_adapter (route : Route) :
    route.adapter.name = route.dialect.name ++ ':' :: route.fragment.trim.lowerCase := by
  simp [adapter, Adapter.route]

theorem name_adapter_eq_iff {route earlier : Route} :
    route.adapter.name = earlier.adapter.name ↔ route.Repeats earlier :=
  Adapter.name_route_eq_iff

/-- No built-in adapter has the name of a route, for none of their names has a colon. -/
theorem isFree_name_adapter_builtIn (route : Route) :
    Registry.builtIn.isFree route.adapter.name = true := by
  rw [Registry.isFree_iff]
  intro stored hstored hname
  have hcolon : ':' ∉ stored.name := by
    have hnames : ∀ name ∈ Registry.builtIn.names, ':' ∉ name := by decide
    exact hnames _ (List.mem_map_of_mem hstored)
  rw [hname, name_adapter] at hcolon
  simp at hcolon

/-! ### First uses -/

theorem mem_of_mem_firstUses {routes : List Route} {route : Route}
    (hroute : route ∈ firstUses routes) : route ∈ routes := by
  induction routes with
  | nil => exact hroute
  | cons first rest ih =>
    rcases List.mem_cons.mp hroute with rfl | hrest
    · exact List.mem_cons_self
    · exact List.mem_cons_of_mem _ (ih (List.mem_of_mem_filter hrest))

theorem exists_firstUses_of_mem {routes : List Route} {route : Route} (hroute : route ∈ routes) :
    ∃ first ∈ firstUses routes, route.Repeats first := by
  induction routes with
  | nil => cases hroute
  | cons first rest ih =>
    by_cases hfirst : route.Repeats first
    · exact ⟨first, List.mem_cons_self, hfirst⟩
    · rcases List.mem_cons.mp hroute with rfl | hrest
      · exact absurd ⟨rfl, rfl⟩ hfirst
      · obtain ⟨found, hfound, hrepeats⟩ := ih hrest
        have hnew : ¬ found.Repeats first := fun hagain ↦
          hfirst ⟨hrepeats.1.trans hagain.1, hrepeats.2.trans hagain.2⟩
        exact ⟨found, List.mem_cons_of_mem _ (List.mem_filter.mpr ⟨hfound, by simpa using hnew⟩),
          hrepeats⟩

/-- The last route with a property is also the last first use with it, if it repeats no earlier
one. -/
theorem isLastWith_firstUses {property : Route → Prop} {before after : List Route} {last : Route}
    (hlast : property last) (hafter : ∀ later ∈ after, ¬ property later)
    (hnew : ∀ earlier ∈ before, ¬ last.Repeats earlier) :
    IsLastWith property (firstUses (before ++ last :: after)) last := by
  induction before with
  | nil =>
    refine ⟨[], _, rfl, hlast, fun later hlater ↦ ?_⟩
    exact hafter later (mem_of_mem_firstUses (List.mem_of_mem_filter hlater))
  | cons first rest ih =>
    obtain ⟨front, behind, huses, -, hbehind⟩ := ih fun earlier hearlier ↦
      hnew earlier (List.mem_cons_of_mem _ hearlier)
    have hkept : ¬ last.Repeats first := hnew first List.mem_cons_self
    refine ⟨first :: front.filter fun later ↦ !decide (later.Repeats first),
      behind.filter fun later ↦ !decide (later.Repeats first), ?_, hlast, fun later hlater ↦ ?_⟩
    · simp [firstUses, huses, hkept]
    · exact hbehind later (List.mem_of_mem_filter hlater)

/-- Of the routes, those are accepted that repeat no earlier one, if their names are free. -/
theorem accepted_adapters (registry : Registry) (routes : List Route) :
    registry.accepted (routes.map adapter) =
      ((firstUses routes).filter fun route ↦ registry.isFree route.adapter.name).map adapter := by
  induction routes generalizing registry with
  | nil => rfl
  | cons route rest ih =>
    simp only [List.map_cons, Registry.accepted, firstUses, List.filter_cons, List.filter_filter]
    cases hfree : registry.isFree route.adapter.name with
    | true =>
      have hstill (later : Route) :
          (registry.register route.adapter).isFree later.adapter.name =
            (registry.isFree later.adapter.name && !decide (later.Repeats route)) := by
        rw [Registry.register_of_isFree hfree, Bool.eq_iff_iff]
        simp only [Registry.isFree_iff, List.forall_mem_cons, Bool.and_eq_true, Bool.not_eq_true',
          decide_eq_false_iff_not, ← name_adapter_eq_iff]
        rw [and_comm, ne_comm]
      simp [ih, hstill]
    | false =>
      -- A repetition of a refused route is refused as well, so leaving it out changes nothing.
      have hrefused (later : Route) :
          (registry.isFree later.adapter.name && !decide (later.Repeats route)) =
            registry.isFree later.adapter.name := by
        by_cases hrepeats : later.Repeats route
        · simp [name_adapter_eq_iff.mpr hrepeats, hfree]
        · simp [hrepeats]
      simp [ih, hrefused]

end Route

namespace Configuration

open Route

theorem adapterFor_eq (configuration : Configuration) (connection : Connection) :
    configuration.composer.adapterFor connection =
      (((firstUses configuration.routes).reverse.find? (·.adapter.accepts connection)).map
        adapter).getD (Registry.builtIn.select connection) := by
  change (Registry.builtIn.registerAll (configuration.routes.map adapter)).select connection = _
  rw [Registry.select_registerAll, accepted_adapters]
  simp only [isFree_name_adapter_builtIn, List.filter_true, ← List.map_reverse, List.find?_map]
  rfl

/-- The adapter of the last match wins, of the routes that repeat no earlier one; without a match,
the built-in adapters decide. -/
theorem adapterFor_composer (configuration : Configuration) (connection : Connection) :
    ((∃ route, IsLastWith (·.Matches connection) (firstUses configuration.routes) route ∧
        configuration.composer.adapterFor connection = route.adapter) ∨
      ((∀ route ∈ configuration.routes, ¬ route.Matches connection) ∧
        configuration.composer.adapterFor connection = Registry.builtIn.select connection)) ∧
    ∀ before last after, configuration.routes = before ++ last :: after →
      last.Matches connection → (∀ later ∈ after, ¬ later.Matches connection) →
      (∀ earlier ∈ before, ¬ last.Repeats earlier) →
      configuration.composer.adapterFor connection = last.adapter := by
  have hlast {route : Route} :
      (firstUses configuration.routes).reverse.find? (·.adapter.accepts connection) = some route ↔
        IsLastWith (·.Matches connection) (firstUses configuration.routes) route := by
    simp only [find?_reverse_eq_some_iff, accepts_adapter_iff]
  refine ⟨?_, fun before last after hroutes hmatches hafter hnew ↦ ?_⟩
  · cases hfound : (firstUses configuration.routes).reverse.find?
        (·.adapter.accepts connection) with
    | some route => exact .inl ⟨route, hlast.mp hfound, by simp [adapterFor_eq, hfound]⟩
    | none =>
      refine .inr ⟨fun route hroute hmatches ↦ ?_, by simp [adapterFor_eq, hfound]⟩
      obtain ⟨first, hfirst, hrepeats⟩ := exists_firstUses_of_mem hroute
      rw [List.find?_eq_none] at hfound
      exact hfound first (List.mem_reverse.mpr hfirst)
        (accepts_adapter_iff.mpr ((hrepeats.matches_iff connection).mp hmatches))
  · have hfound := hlast.mpr (hroutes ▸ isLastWith_firstUses hmatches hafter hnew)
    simp [adapterFor_eq, hfound]

/-- A configuration in which the last route repeats the first one. -/
def repeatedRouteText : Text :=
  "[[dialects]]
match = \"roach\"
dialect = \"sql-operator\"

[[dialects]]
match = \"cockroach\"
dialect = \"generic\"

[[dialects]]
match = \"roach\"
dialect = \"sql-operator\"
".toList

/-- The last match of all routes need not win: a repeated route does not come to the front again. -/
theorem not_forall_last_match_wins :
    ¬ ∀ (text : Text) (configuration : Configuration) (connection : Connection) (last : Route),
      parse text = .ok configuration →
      IsLastWith (·.Matches connection) configuration.routes last →
      (configuration.composer.adapterFor connection).dialect = last.dialect := by
  intro hwins
  let first : Route := ⟨"roach".toList, .sqlOperator⟩
  let between : Route := ⟨"cockroach".toList, .generic⟩
  let configuration : Configuration := { routes := [first, between, first] }
  let connection : Connection := .ofDriver "cockroachdb".toList
  have hparse : parse repeatedRouteText = .ok configuration := by
    have hread : (parse repeatedRouteText).toOption = some configuration := by decide +kernel
    cases hparsed : parse repeatedRouteText with
    | error => simp [hparsed, Except.toOption] at hread
    | ok read => simpa [hparsed, Except.toOption] using hread
  have hmatches : first.Matches connection := accepts_adapter_iff.mp (by decide)
  have hlast : IsLastWith (·.Matches connection) configuration.routes first :=
    ⟨[first, between], [], rfl, hmatches, by simp⟩
  exact absurd (hwins _ _ _ _ hparse hlast) (by decide)

end Configuration

end KeyPathQuery
