import KeyPathQuery.Phrasing
import KeyPathQuery.Proofs.Registry.LastResort

/-!
What is lost when a registry refuses a route. A registration is refused because of a name, and the
name of a route tells its dialect and its fragment in lower case, divided by a colon. The fragment
may hold colons and names of dialects itself; the names of dialects hold none, so the first colon
divides (`Adapter.name_route_eq_iff`). The other adapters that the library provides have no colon in
their names (`Adapter.exists_route_of_name_eq`).

So a route is refused because of a route with the same dialect and the same fragment in lower case
and for no other reason. Recognition looks at a fragment in lower case only, and phrasing at the
dialect only, so the route that is stored stands in for the one that is refused.

Main statement: `exists_standsFor_refused_route`.
-/

set_option autoImplicit false
set_option relaxedAutoImplicit false

namespace KeyPathQuery

/-- No colon stands in the name of a dialect. -/
theorem Dialect.colon_notMem_name (dialect : Dialect) : ':' ∉ dialect.name := by
  cases dialect <;> decide

theorem Dialect.name_injective : Function.Injective name := by
  intro dialect other hname
  have hfound := ofName?_eq_some_iff.mpr hname
  rw [ofName?_eq_some_iff.mpr rfl] at hfound
  exact (Option.some.inj hfound).symm

namespace Adapter

/-! ### The names of routes -/

/-- The name of a route tells its dialect and its fragment in lower case, whatever colons the
fragment holds. -/
theorem name_route_eq_iff {fragment other : Text} {dialect otherDialect : Dialect} :
    (route fragment dialect).name = (route other otherDialect).name ↔
      dialect = otherDialect ∧ fragment.lowerCase = other.lowerCase := by
  simp only [route, List.append_assoc, List.singleton_append]
  constructor
  · intro hname
    have hcut := congrArg (Text.cut · [':']) hname
    simp only [Text.cut_append_cons (Dialect.colon_notMem_name _)] at hcut
    obtain ⟨hdialect, hfragment⟩ := Prod.mk.inj (Option.some.inj hcut)
    exact ⟨Dialect.name_injective hdialect, hfragment⟩
  · rintro ⟨rfl, hfragment⟩
    rw [hfragment]

/-- The name of a route is taken by routes only. -/
theorem exists_route_of_name_eq {adapter : Adapter} (hprovided : adapter.IsProvided)
    {fragment : Text} {dialect : Dialect} (hname : adapter.name = (route fragment dialect).name) :
    ∃ earlier : Text, adapter = route earlier dialect ∧
      earlier.lowerCase = fragment.lowerCase := by
  have hcolon : ':' ∈ (route fragment dialect).name := by simp [route]
  rw [← hname] at hcolon
  cases hprovided with
  | mysql | postgres | mongo | generic => exact absurd hcolon (by decide)
  | route earlier earlierDialect =>
    obtain ⟨rfl, hfragment⟩ := name_route_eq_iff.mp hname
    exact ⟨earlier, rfl, hfragment⟩

/-! ### Stand-ins -/

/-- An adapter that does what another one does, for every connection and every operation; only their
names may differ. -/
structure StandsFor (adapter other : Adapter) : Prop where
  dialect_eq : adapter.dialect = other.dialect
  probe_eq (connection : Connection) :
    adapter.recognition.probe? connection = other.recognition.probe? connection
  phrase_eq (path : KeyPath) (request : Request) :
    adapter.dialect.phrase path request = other.dialect.phrase path request
  needsSelectAll_eq : adapter.needsSelectAll = other.needsSelectAll

/-- Routes of one dialect whose fragments are the same in lower case do the same. -/
theorem standsFor_route {fragment other : Text} (hfragment : fragment.lowerCase = other.lowerCase)
    (dialect : Dialect) : (route fragment dialect).StandsFor (route other dialect) where
  dialect_eq := rfl
  probe_eq connection := by
    simp only [route, Recognition.probe?, Connection.identityContains, List.any_cons, hfragment]
  phrase_eq _ _ := rfl
  needsSelectAll_eq := rfl

theorem StandsFor.accepts_eq {adapter other : Adapter} (hstands : adapter.StandsFor other)
    (connection : Connection) : adapter.accepts connection = other.accepts connection := by
  rw [accepts, hstands.probe_eq, accepts]

end Adapter

namespace Registry

/-! ### What a registry stores -/

theorem mem_of_mem_accepted {registry : Registry} {adapters : List Adapter} {adapter : Adapter}
    (haccepted : adapter ∈ registry.accepted adapters) : adapter ∈ adapters := by
  induction adapters generalizing registry with
  | nil => exact haccepted
  | cons first rest ih =>
    rw [accepted] at haccepted
    split at haccepted
    · rcases List.mem_cons.mp haccepted with rfl | hrest
      · exact List.mem_cons_self
      · exact List.mem_cons_of_mem _ (ih hrest)
    · exact List.mem_cons_of_mem _ (ih haccepted)

/-- Registrations of adapters that the library provides lead to a registry of such adapters. -/
theorem isProvided_of_mem_registerAll {start : Registry} (hstart : start ∈ [builtIn, empty])
    {adapters : List Adapter} (hprovided : ∀ adapter ∈ adapters, adapter.IsProvided) :
    ∀ stored ∈ (start.registerAll adapters).adapters, stored.IsProvided := by
  intro stored hstored
  rw [adapters_registerAll, List.mem_append, List.mem_reverse] at hstored
  rcases hstored with haccepted | hfirst
  · exact hprovided stored (mem_of_mem_accepted haccepted)
  · simp only [List.mem_cons, List.not_mem_nil, or_false] at hstart
    rcases hstart with rfl | rfl
    · simp only [builtIn, List.mem_cons, List.not_mem_nil, or_false] at hfirst
      rcases hfirst with rfl | rfl | rfl
      · exact .mysql
      · exact .postgres
      · exact .mongo
    · cases hfirst

/-! ### Refusals -/

theorem isFree_eq_false_iff {registry : Registry} {name : Text} :
    registry.isFree name = false ↔ ∃ stored ∈ registry.adapters, stored.name = name := by
  rw [← Bool.not_eq_true, isFree_iff]
  simp

/-- A registration changes nothing exactly if the name of the adapter is taken. -/
theorem register_eq_self_iff {registry : Registry} {adapter : Adapter} :
    registry.register adapter = registry ↔ registry.isFree adapter.name = false := by
  cases hfree : registry.isFree adapter.name with
  | true =>
    refine iff_of_false (fun hsame ↦ ?_) nofun
    rw [register_of_isFree hfree] at hsame
    have hlength := congrArg (·.adapters.length) hsame
    simp at hlength
  | false => exact iff_of_true (register_of_not_isFree hfree) rfl

theorem select_mem_of_accepts {registry : Registry} {adapter : Adapter} {connection : Connection}
    (hstored : adapter ∈ registry.adapters) (haccepts : adapter.accepts connection = true) :
    registry.select connection ∈ registry.adapters := by
  unfold select
  cases hfound : registry.adapters.find? (·.accepts connection) with
  | none => exact absurd haccepts (List.find?_eq_none.mp hfound adapter hstored)
  | some chosen => exact List.mem_of_find?_eq_some hfound

/-- A route is refused, and the registry left as it is, exactly if a route of the same dialect is
stored with the same fragment in lower case. Then a stored adapter does what the refused one would
have done, on every connection and for every operation, and no connection of the refused route is
left to the last resort. -/
theorem exists_standsFor_refused_route {start : Registry} (hstart : start ∈ [builtIn, empty])
    {adapters : List Adapter} (hprovided : ∀ adapter ∈ adapters, adapter.IsProvided)
    (fragment : Text) (dialect : Dialect) :
    let registry := start.registerAll adapters
    let route := Adapter.route fragment dialect
    (registry.register route = registry ↔ registry.isFree route.name = false) ∧
    (registry.isFree route.name = false ↔ ∃ earlier : Text,
      .route earlier dialect ∈ registry.adapters ∧ earlier.lowerCase = fragment.lowerCase) ∧
    (registry.isFree route.name = false →
      (∃ stored ∈ registry.adapters, stored.StandsFor route) ∧
      ∀ connection, route.accepts connection = true →
        registry.select connection ∈ registry.adapters) := by
  intro registry route
  have hrefused : registry.isFree route.name = false ↔ ∃ earlier : Text,
      .route earlier dialect ∈ registry.adapters ∧ earlier.lowerCase = fragment.lowerCase := by
    rw [isFree_eq_false_iff]
    constructor
    · rintro ⟨stored, hstored, hname⟩
      have hstoredProvided := isProvided_of_mem_registerAll hstart hprovided stored hstored
      obtain ⟨earlier, rfl, hfragment⟩ := Adapter.exists_route_of_name_eq hstoredProvided hname
      exact ⟨earlier, hstored, hfragment⟩
    · rintro ⟨earlier, hstored, hfragment⟩
      exact ⟨_, hstored, Adapter.name_route_eq_iff.mpr ⟨rfl, hfragment⟩⟩
  refine ⟨register_eq_self_iff, hrefused, fun htaken ↦ ?_⟩
  obtain ⟨earlier, hstored, hfragment⟩ := hrefused.mp htaken
  have hstands := Adapter.standsFor_route hfragment dialect
  refine ⟨⟨_, hstored, hstands⟩, fun connection haccepts ↦ ?_⟩
  exact select_mem_of_accepts hstored ((hstands.accepts_eq connection).trans haccepts)

/-- A fragment that is the same as a stored one in lower case, where a capital sigma at the end of a
word has a form of its own. Other forms of the fragment and other dialects are not refused, and the
stored fragment may itself look like a name. -/
theorem exists_standsFor_refused_route_of_final_sigma :
    let adapters : List Adapter :=
      [.route "ΟΣ".toList .sqlOperator, .mysql, .route "operator:ος".toList .generic]
    let registry := builtIn.registerAll adapters
    builtIn ∈ [builtIn, empty] ∧ (∀ adapter ∈ adapters, adapter.IsProvided) ∧
    registry.isFree (Adapter.route "ος".toList .sqlOperator).name = false ∧
    (∃ stored ∈ registry.adapters, stored.StandsFor (.route "ος".toList .sqlOperator)) ∧
    registry.isFree (Adapter.route "οσ".toList .sqlOperator).name = true ∧
    registry.isFree (Adapter.route "ος".toList .generic).name = true := by
  intro adapters registry
  have hstart : builtIn ∈ [builtIn, empty] := by decide
  have hprovided : ∀ adapter ∈ adapters, adapter.IsProvided := by
    simp only [adapters, List.forall_mem_cons]
    exact ⟨.route _ _, .mysql, .route _ _, by simp⟩
  obtain ⟨-, hrefused, hlost⟩ :=
    exists_standsFor_refused_route hstart hprovided "ος".toList .sqlOperator
  have htaken : registry.isFree (Adapter.route "ος".toList .sqlOperator).name = false :=
    hrefused.mpr ⟨"ΟΣ".toList, by decide +kernel, by decide +kernel⟩
  exact ⟨hstart, hprovided, htaken, (hlost htaken).1, by decide +kernel, by decide +kernel⟩

end Registry

end KeyPathQuery
