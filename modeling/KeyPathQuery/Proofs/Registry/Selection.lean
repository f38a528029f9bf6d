import KeyPathQuery.Registry

/-!
Which adapter a connection gets after any registrations. An adapter is accepted if its name is
free, and then stands in front of the others; a refused one changes nothing. So the adapters of a
registry are those it started with behind the accepted ones, the latest first
(`adapters_registerAll`), and a connection goes to the latest accepted adapter that takes it, or
else where it went at the start (`select_registerAll`). A probe that breaks off is an answer of no,
wherever the adapter stands.

Main statement: `select_registerAll_of_start`.
-/

set_option autoImplicit false
set_option relaxedAutoImplicit false

namespace KeyPathQuery

/-! ### The last item with a property -/

section Last

variable {α : Type} {property : α → Prop}

/-- The last of some items with a property. -/
def IsLastWith (property : α → Prop) (items : List α) (item : α) : Prop :=
  ∃ before after, items = before ++ item :: after ∧ property item ∧ ∀ later ∈ after, ¬ property later

/-- The last item with a property is the first one from behind. -/
theorem find?_reverse_eq_some_iff {check : α → Bool} {items : List α} {item : α} :
    items.reverse.find? check = some item ↔ IsLastWith (check · = true) items item := by
  rw [List.find?_eq_some_iff_append]
  constructor
  · rintro ⟨hitem, behind, front, hitems, hbehind⟩
    refine ⟨front.reverse, behind.reverse, ?_, hitem, fun later hlater ↦ ?_⟩
    · simpa using congrArg List.reverse hitems
    · simpa using hbehind later (List.mem_reverse.mp hlater)
  · rintro ⟨before, after, rfl, hitem, hafter⟩
    refine ⟨hitem, after.reverse, before.reverse, by simp, fun later hlater ↦ ?_⟩
    simpa using hafter later (List.mem_reverse.mp hlater)

end Last

/-- An adapter takes the connections that its probe affirms, and a probe may break off instead. -/
theorem Adapter.accepts_iff {adapter : Adapter} {connection : Connection} :
    adapter.accepts connection = true ↔ adapter.recognition.probe? connection = some true := by
  unfold accepts
  cases adapter.recognition.probe? connection <;> simp

/-- A fragment is found in a connection if it lies in one of the identities, both in lower case. -/
theorem Connection.identityContains_singleton_iff {connection : Connection} {fragment : Text} :
    connection.identityContains [fragment] = true ↔
      ∃ identity ∈ connection.identities, fragment.lowerCase <:+: identity.lowerCase := by
  simp [identityContains, Text.occursIn_iff]

/-- A route takes the connections in which its fragment is found. -/
theorem Adapter.accepts_route (fragment : Text) (dialect : Dialect) (connection : Connection) :
    (route fragment dialect).accepts connection = connection.identityContains [fragment] :=
  rfl

namespace Registry

/-- The adapters that are accepted when adapters are registered one after another, in order. -/
def accepted (registry : Registry) : List Adapter → List Adapter
  | [] => []
  | adapter :: rest =>
    if registry.isFree adapter.name then adapter :: (registry.register adapter).accepted rest
    else registry.accepted rest

/-! ### One registration -/

theorem isFree_iff {registry : Registry} {name : Text} :
    registry.isFree name = true ↔ ∀ stored ∈ registry.adapters, stored.name ≠ name := by
  simp [isFree, names]

theorem register_of_isFree {registry : Registry} {adapter : Adapter}
    (hfree : registry.isFree adapter.name = true) :
    registry.register adapter = ⟨adapter :: registry.adapters⟩ :=
  if_pos hfree

theorem register_of_not_isFree {registry : Registry} {adapter : Adapter}
    (htaken : registry.isFree adapter.name = false) : registry.register adapter = registry :=
  if_neg (Bool.eq_false_iff.mp htaken)

/-! ### Any number of registrations -/

theorem nodup_names_registerAll {registry : Registry} (hnodup : registry.names.Nodup)
    (adapters : List Adapter) : (registry.registerAll adapters).names.Nodup := by
  induction adapters generalizing registry with
  | nil => exact hnodup
  | cons adapter rest ih => exact ih (nodup_names_register hnodup adapter)

/-- The accepted adapters stand in front, the latest first. -/
theorem adapters_registerAll (registry : Registry) (adapters : List Adapter) :
    (registry.registerAll adapters).adapters =
      (registry.accepted adapters).reverse ++ registry.adapters := by
  induction adapters generalizing registry with
  | nil => rfl
  | cons adapter rest ih =>
    change ((registry.register adapter).registerAll rest).adapters = _
    cases hfree : registry.isFree adapter.name with
    | true => simp [ih, accepted, hfree, register_of_isFree hfree]
    | false => simp [ih, accepted, hfree, register_of_not_isFree hfree]

/-! ### Selection -/

/-- A connection goes to the latest accepted adapter that takes it, or else where it went before. -/
theorem select_registerAll (registry : Registry) (adapters : List Adapter)
    (connection : Connection) :
    (registry.registerAll adapters).select connection =
      ((registry.accepted adapters).reverse.find? (·.accepts connection)).getD
        (registry.select connection) := by
  rw [select, adapters_registerAll, List.find?_append]
  cases (registry.accepted adapters).reverse.find? (·.accepts connection) <;> rfl

/-- A connection goes to an adapter that takes it. -/
theorem accepts_select (registry : Registry) (connection : Connection) :
    (registry.select connection).accepts connection = true := by
  unfold select
  cases hfound : registry.adapters.find? (·.accepts connection) with
  | none => rfl
  | some adapter =>
    have haccepts := List.find?_some hfound
    simpa using haccepts

/-- An adapter whose probe breaks off on a connection does not get it. -/
theorem select_ne_of_breaksOff (registry : Registry) {adapter : Adapter} {connection : Connection}
    (hbreaks : adapter.recognition.probe? connection = none) :
    registry.select connection ≠ adapter := by
  rintro rfl
  have haccepts := Adapter.accepts_iff.mp (registry.accepts_select connection)
  rw [hbreaks] at haccepts
  cases haccepts

theorem select_builtIn (connection : Connection) :
    builtIn.select connection =
      if Adapter.mysql.accepts connection then .mysql
      else if Adapter.postgres.accepts connection then .postgres
      else if Adapter.mongo.accepts connection then .mongo
      else .generic := by
  simp only [select, builtIn, List.find?_cons, List.find?_nil]
  cases Adapter.mysql.accepts connection <;> cases Adapter.postgres.accepts connection <;>
    cases Adapter.mongo.accepts connection <;> rfl

/-- The latest accepted adapter that takes a connection gets it, if there is one. -/
theorem isLastWith_select_or (registry : Registry) (adapters : List Adapter)
    (connection : Connection) :
    IsLastWith (·.accepts connection = true) (registry.accepted adapters)
        ((registry.registerAll adapters).select connection) ∨
      (∀ adapter ∈ registry.accepted adapters, adapter.accepts connection = false) ∧
        (registry.registerAll adapters).select connection = registry.select connection := by
  rw [select_registerAll]
  cases hfound : (registry.accepted adapters).reverse.find? (·.accepts connection) with
  | some adapter => exact .inl (find?_reverse_eq_some_iff.mp hfound)
  | none =>
    rw [List.find?_eq_none] at hfound
    exact .inr ⟨fun adapter hadapter ↦ by simpa using hfound adapter (List.mem_reverse.mpr hadapter),
      rfl⟩

/-- What registrations do to a registry that starts with the built-in adapters or with none.

Names stay apart. A registration is answered by whether the name is free; then the adapter stands
in front and gets the connections that its probe affirms, and otherwise nothing changes. So a
connection goes to the latest accepted adapter that takes it, then to the built-in ones in order,
then to the generic one, and never to an adapter whose probe breaks off on it. -/
theorem select_registerAll_of_start {start : Registry} (hstart : start ∈ [builtIn, empty])
    (adapters : List Adapter) :
    let registry := start.registerAll adapters
    registry.names.Nodup ∧
    registry.adapters = (start.accepted adapters).reverse ++ start.adapters ∧
    (∀ adapter,
      (registry.isFree adapter.name = true ↔
        ∀ stored ∈ registry.adapters, stored.name ≠ adapter.name) ∧
      registry.register adapter =
        (if registry.isFree adapter.name then ⟨adapter :: registry.adapters⟩ else registry) ∧
      ∀ connection, (registry.register adapter).select connection =
        if registry.isFree adapter.name = true ∧
          adapter.recognition.probe? connection = some true then adapter
        else registry.select connection) ∧
    (∀ connection,
      IsLastWith (·.accepts connection = true) (start.accepted adapters)
        (registry.select connection) ∨
      ((∀ adapter ∈ start.accepted adapters, adapter.accepts connection = false) ∧
        registry.select connection = start.select connection)) ∧
    (∀ connection,
      builtIn.select connection =
        (if Adapter.mysql.accepts connection then .mysql
        else if Adapter.postgres.accepts connection then .postgres
        else if Adapter.mongo.accepts connection then .mongo
        else .generic) ∧
      empty.select connection = .generic) ∧
    ∀ adapter connection, adapter.recognition.probe? connection = none →
      registry.select connection ≠ adapter ∧
      (registry.register adapter).select connection = registry.select connection := by
  intro registry
  have hnodup : start.names.Nodup := by
    simp only [List.mem_cons, List.not_mem_nil, or_false] at hstart
    rcases hstart with rfl | rfl <;> decide
  refine ⟨nodup_names_registerAll hnodup adapters, adapters_registerAll start adapters,
    fun adapter ↦ ⟨isFree_iff, rfl, fun connection ↦ ?_⟩, isLastWith_select_or start adapters,
    fun connection ↦ ⟨select_builtIn connection, rfl⟩,
    fun adapter connection hbreaks ↦ ⟨select_ne_of_breaksOff registry hbreaks, ?_⟩⟩
  · simp only [select_register, Bool.and_eq_true, Adapter.accepts_iff]
  · simp [select_register, Adapter.accepts, hbreaks]

/-- Registrations of which two are refused: a second route of one name, and a second `mysql`. -/
def registrationsWithRefusals : List Adapter :=
  [.route "shop".toList .sqlOperator, ⟨"probe".toList, .sqlFunction, .breaksOff⟩,
    .route "SHOP".toList .sqlOperator, .mysql]

/-- The first route gets its connections, though an adapter that breaks off stands before it and
a built-in one would take them too. -/
theorem select_registerAll_of_refusals :
    builtIn ∈ [builtIn, empty] ∧
    (builtIn.registerAll registrationsWithRefusals).names.Nodup ∧
    (builtIn.registerAll registrationsWithRefusals).select (.ofDriver "mysql-shop".toList) ≠
      ⟨"probe".toList, .sqlFunction, .breaksOff⟩ ∧
    (builtIn.registerAll registrationsWithRefusals).select (.ofDriver "mysql-shop".toList) =
      .route "shop".toList .sqlOperator := by
  have hstart : builtIn ∈ [builtIn, empty] := by decide
  obtain ⟨hnodup, -, -, -, -, hbreaks⟩ :=
    select_registerAll_of_start hstart registrationsWithRefusals
  exact ⟨hstart, hnodup, (hbreaks _ (.ofDriver "mysql-shop".toList) rfl).1, by decide⟩

end Registry

end KeyPathQuery
