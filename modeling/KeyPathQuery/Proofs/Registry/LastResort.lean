import KeyPathQuery.Proofs.Registry.Selection

/-!
The generic adapter takes every connection, so it has to be asked last: it stands outside the list
of a registry, behind all that is stored there. No registration looks after that. The generic
adapter is registered like any other one, its name is free the first time, and then it stands in
front of what was there before and hides it (`not_forall_keepsLastResort`).

Of the adapters that the library provides, only the generic one has its name, since the name of a
route has a colon. So a registry keeps its last resort exactly if the generic adapter was never
registered, and if it was, the connections are left to the adapters that were accepted after it.

Main statement: `keepsLastResort_registerAll_iff`.
-/

set_option autoImplicit false
set_option relaxedAutoImplicit false

namespace KeyPathQuery

/-- The adapters that the library provides. -/
inductive Adapter.IsProvided : Adapter → Prop
  | mysql : IsProvided .mysql
  | postgres : IsProvided .postgres
  | mongo : IsProvided .mongo
  | generic : IsProvided .generic
  | route (fragment : Text) (dialect : Dialect) : IsProvided (.route fragment dialect)

/-- The name of the generic adapter is taken by no other one. -/
theorem Adapter.IsProvided.name_eq_generic_iff {adapter : Adapter}
    (hprovided : adapter.IsProvided) :
    adapter.name = Adapter.generic.name ↔ adapter = .generic := by
  refine ⟨fun hname ↦ ?_, fun hsame ↦ hsame ▸ rfl⟩
  cases hprovided with
  | generic => rfl
  | mysql | postgres | mongo => exact absurd hname (by decide)
  | route fragment dialect =>
    have hcolon : ':' ∈ (Adapter.route fragment dialect).name := by simp [Adapter.route]
    rw [hname] at hcolon
    exact absurd hcolon (by decide)

namespace Registry

/-- The generic adapter is a last resort: it is not stored, and a connection goes to it only if no
other adapter that is stored takes the connection. -/
structure KeepsLastResort (registry : Registry) : Prop where
  notStored : Adapter.generic.name ∉ registry.names
  accepts_of_select {connection : Connection} (hselect : registry.select connection = .generic) :
    ∀ stored ∈ registry.adapters, stored ≠ .generic → stored.accepts connection = false

/-! ### Names -/

/-- After a registration the name of the adapter is there, whether the adapter was accepted or
not. -/
theorem mem_names_register {registry : Registry} {adapter : Adapter} {name : Text} :
    name ∈ (registry.register adapter).names ↔ name = adapter.name ∨ name ∈ registry.names := by
  cases hfree : registry.isFree adapter.name with
  | true => simp [register_of_isFree hfree, names]
  | false =>
    have htaken : adapter.name ∈ registry.names := by simpa [isFree] using hfree
    rw [register_of_not_isFree hfree, or_iff_right_of_imp]
    rintro rfl
    exact htaken

theorem mem_names_registerAll {registry : Registry} {adapters : List Adapter} {name : Text} :
    name ∈ (registry.registerAll adapters).names ↔
      name ∈ adapters.map (·.name) ∨ name ∈ registry.names := by
  induction adapters generalizing registry with
  | nil => simp [registerAll]
  | cons adapter rest ih =>
    change name ∈ ((registry.register adapter).registerAll rest).names ↔ _
    rw [ih, mem_names_register, List.map_cons, List.mem_cons, or_left_comm, or_assoc]

theorem generic_name_notMem_names_of_start {start : Registry} (hstart : start ∈ [builtIn, empty]) :
    Adapter.generic.name ∉ start.names := by
  simp only [List.mem_cons, List.not_mem_nil, or_false] at hstart
  rcases hstart with rfl | rfl <;> decide

/-- The name of the generic adapter is there exactly if the adapter was registered. -/
theorem generic_name_mem_names_registerAll_iff {start : Registry}
    (hstart : start ∈ [builtIn, empty]) {adapters : List Adapter}
    (hprovided : ∀ adapter ∈ adapters, adapter.IsProvided) :
    Adapter.generic.name ∈ (start.registerAll adapters).names ↔ .generic ∈ adapters := by
  rw [mem_names_registerAll, or_iff_left (generic_name_notMem_names_of_start hstart), List.mem_map]
  constructor
  · rintro ⟨adapter, hadapter, hname⟩
    rwa [← (hprovided adapter hadapter).name_eq_generic_iff.mp hname]
  · intro hgeneric
    exact ⟨.generic, hgeneric, rfl⟩

/-! ### Selection -/

/-- A registry that does not store the generic adapter keeps it as a last resort. -/
theorem keepsLastResort_of_notMem_names {registry : Registry}
    (hnames : Adapter.generic.name ∉ registry.names) : registry.KeepsLastResort where
  notStored := hnames
  accepts_of_select := by
    intro connection hselect stored hstored _
    unfold select at hselect
    cases hfound : registry.adapters.find? (·.accepts connection) with
    | none => simpa using List.find?_eq_none.mp hfound stored hstored
    | some adapter =>
      rw [hfound, Option.getD_some] at hselect
      have hmem := List.mem_of_find?_eq_some hfound
      rw [hselect] at hmem
      exact absurd (List.mem_map_of_mem hmem) hnames

/-- What stands behind the generic adapter is never asked. -/
theorem select_of_generic_first (adapters : List Adapter) (connection : Connection) :
    select ⟨.generic :: adapters⟩ connection = .generic := by
  rw [select, List.find?_cons_of_pos rfl, Option.getD_some]

/-- The generic adapter is a last resort exactly if it is not registered. If it is, it stands in
front of all that was there when it was registered for the first time, and a connection goes to
the latest adapter that takes it of those that were accepted since, or else to the generic one. -/
theorem keepsLastResort_registerAll_iff {start : Registry} (hstart : start ∈ [builtIn, empty])
    {adapters : List Adapter} (hprovided : ∀ adapter ∈ adapters, adapter.IsProvided) :
    ((start.registerAll adapters).KeepsLastResort ↔ .generic ∉ adapters) ∧
    ∀ before after, adapters = before ++ .generic :: after → .generic ∉ before →
      let since := (start.registerAll (before ++ [.generic])).accepted after
      (start.registerAll adapters).adapters =
        since.reverse ++ .generic :: (start.registerAll before).adapters ∧
      ∀ connection, (start.registerAll adapters).select connection =
        (since.reverse.find? (·.accepts connection)).getD .generic := by
  have hnames := generic_name_mem_names_registerAll_iff hstart hprovided
  refine ⟨⟨fun hkeeps hgeneric ↦ hkeeps.notStored (hnames.mpr hgeneric),
    fun hgeneric ↦ keepsLastResort_of_notMem_names (mt hnames.mp hgeneric)⟩, ?_⟩
  -- Up to its first registration the name of the generic adapter is free, so it goes in front.
  rintro before after rfl hbefore since
  have hfree : (start.registerAll before).isFree Adapter.generic.name = true := by
    have hnew := mt (generic_name_mem_names_registerAll_iff hstart fun adapter hadapter ↦
      hprovided adapter (List.mem_append_left _ hadapter)).mp hbefore
    simpa [isFree] using hnew
  have hgeneric : start.registerAll (before ++ [.generic]) =
      ⟨.generic :: (start.registerAll before).adapters⟩ := by
    rw [← register_of_isFree hfree, registerAll, List.foldl_append]
    rfl
  have hsplit : start.registerAll (before ++ .generic :: after) =
      (start.registerAll (before ++ [.generic])).registerAll after := by
    simp only [registerAll, List.foldl_append, List.foldl_cons, List.foldl_nil]
  rw [hsplit]
  constructor
  · rw [adapters_registerAll]
    change since.reverse ++ (start.registerAll (before ++ [.generic])).adapters = _
    rw [hgeneric]
  · intro connection
    rw [select_registerAll]
    change (since.reverse.find? _).getD ((start.registerAll (before ++ [.generic])).select _) = _
    rw [hgeneric, select_of_generic_first]

/-- Two routes with the generic adapter between them. The later one keeps its connections; the
earlier one and the built-in adapters lose theirs. -/
theorem keepsLastResort_registerAll_of_generic_between :
    let earlier := Adapter.route "shop".toList .sqlOperator
    let later := Adapter.route "my".toList .sqlOperator
    let registry := builtIn.registerAll [earlier, .generic, later]
    builtIn ∈ [builtIn, empty] ∧
    (∀ adapter ∈ [earlier, .generic, later], adapter.IsProvided) ∧
    ¬ registry.KeepsLastResort ∧
    registry.adapters = [later, .generic, earlier, .mysql, .postgres, .mongo] ∧
    registry.select (.ofDriver "mysql".toList) = later ∧
    registry.select (.ofDriver "pgsql-shop".toList) = .generic := by
  intro earlier later registry
  have hstart : builtIn ∈ [builtIn, empty] := by decide
  have hprovided : ∀ adapter ∈ [earlier, .generic, later], adapter.IsProvided := by
    simp only [List.forall_mem_cons]
    exact ⟨.route _ _, .generic, .route _ _, by simp⟩
  obtain ⟨hkeeps, hafter⟩ := keepsLastResort_registerAll_iff hstart hprovided
  obtain ⟨hadapters, hselect⟩ := hafter [earlier] [later] rfl (by decide)
  exact ⟨hstart, hprovided, mt hkeeps.mp (by simp), hadapters.trans (by decide),
    (hselect _).trans (by decide), (hselect _).trans (by decide)⟩

/-- Registrations need not keep the last resort: the generic adapter itself is accepted, and takes
the connections of MySQL. -/
theorem not_forall_keepsLastResort :
    ¬ ∀ start ∈ [builtIn, empty], ∀ adapters : List Adapter,
      (∀ adapter ∈ adapters, adapter.IsProvided) →
      (start.registerAll adapters).KeepsLastResort := by
  intro hkeeps
  have hregistry := hkeeps builtIn (by decide) [.generic] (by simpa using .generic)
  have hselect : (builtIn.registerAll [.generic]).select (.ofDriver "mysql".toList) = .generic := by
    decide
  have haccepts := hregistry.accepts_of_select hselect .mysql (by decide) (by decide)
  exact absurd haccepts (by decide)

end Registry

end KeyPathQuery
