import KeyPathQuery.Adapter

/-!
Registries: adapters in the order in which they are asked. The first one that takes a connection
gets it; a connection that no adapter takes gets the generic one, which is not itself in the
list. An adapter is registered in front of the others, unless its name is taken.

Main statements: `select_register` says which adapter a connection gets after a registration,
and `nodup_names_register` that registration keeps the names apart.
-/

set_option autoImplicit false
set_option relaxedAutoImplicit false

namespace KeyPathQuery

/-- Adapters in the order in which they are asked. -/
structure Registry where
  adapters : List Adapter
deriving DecidableEq, Repr

namespace Registry

/-- The registry of the built-in adapters. -/
def builtIn : Registry := ⟨[.mysql, .postgres, .mongo]⟩

/-- The registry without adapters. -/
def empty : Registry := ⟨[]⟩

/-- The names of the adapters in order. -/
def names (registry : Registry) : List Text :=
  registry.adapters.map (·.name)

/-- Whether a name is free. -/
def isFree (registry : Registry) (name : Text) : Bool :=
  !registry.names.contains name

/-- Puts an adapter in front, unless its name is taken. -/
def register (registry : Registry) (adapter : Adapter) : Registry :=
  if registry.isFree adapter.name then ⟨adapter :: registry.adapters⟩ else registry

/-- Registers adapters one after another. -/
def registerAll (registry : Registry) (adapters : List Adapter) : Registry :=
  adapters.foldl register registry

/-- The adapter of a connection. -/
def select (registry : Registry) (connection : Connection) : Adapter :=
  (registry.adapters.find? (·.accepts connection)).getD .generic

theorem select_register (registry : Registry) (adapter : Adapter) (connection : Connection) :
    (registry.register adapter).select connection =
      if registry.isFree adapter.name && adapter.accepts connection then adapter
      else registry.select connection := by
  by_cases hfree : registry.isFree adapter.name
  · by_cases haccepts : adapter.accepts connection <;> simp [register, select, hfree, haccepts]
  · simp [register, hfree]

theorem nodup_names_register {registry : Registry} (hnodup : registry.names.Nodup)
    (adapter : Adapter) : (registry.register adapter).names.Nodup := by
  by_cases hfree : registry.isFree adapter.name
  · have hnew : adapter.name ∉ registry.names := by simpa [isFree] using hfree
    simpa [register, hfree, names] using And.intro hnew hnodup
  · simpa [register, hfree] using hnodup

end Registry

end KeyPathQuery
