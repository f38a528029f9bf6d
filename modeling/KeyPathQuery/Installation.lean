import KeyPathQuery.Composer

/-!
What a process has one of: a registry, and a composer for extension methods. Each of them is settled
at most once, by an installation or by the first use, and every later installation is refused. The
first use of a registry settles on the built-in adapters. The first use of a composer settles on the
registry of the process, which is used for that, with the standard policy.

Main statements: `settled_run`, that nothing which is settled ever changes, and `use_run_use`, that
all uses after the first one get the composer of the first one.
-/

set_option autoImplicit false
set_option relaxedAutoImplicit false

namespace KeyPathQuery

/-- The registry and the composer of a process, as far as they are settled. -/
structure Installation where
  registry : Option Registry := none
  composer : Option Composer := none
deriving DecidableEq, Repr

namespace Installation

/-- Nothing is settled yet. -/
def start : Installation := {}

/-- Installs a registry, unless one is settled already; and whether it was installed. -/
def installRegistry (installation : Installation) (registry : Registry) : Installation × Bool :=
  match installation.registry with
  | some _ => (installation, false)
  | none => ({ installation with registry := some registry }, true)

/-- Installs a composer, unless one is settled already; and whether it was installed. -/
def install (installation : Installation) (composer : Composer) : Installation × Bool :=
  match installation.composer with
  | some _ => (installation, false)
  | none => ({ installation with composer := some composer }, true)

/-- The registry in use, which is settled from then on. -/
def useRegistry (installation : Installation) : Installation × Registry :=
  match installation.registry with
  | some registry => (installation, registry)
  | none => ({ installation with registry := some .builtIn }, .builtIn)

/-- A new composer with the registry in use. -/
def newComposer (installation : Installation) : Installation × Composer :=
  let (next, registry) := installation.useRegistry
  (next, { registry := registry })

/-- The composer in use, which is settled from then on. -/
def use (installation : Installation) : Installation × Composer :=
  match installation.composer with
  | some composer => (installation, composer)
  | none =>
    let (next, composer) := installation.newComposer
    ({ next with composer := some composer }, composer)

/-! ### Runs -/

/-- What may happen to the installation of a process. -/
inductive Event where
  | installRegistry (registry : Registry)
  | install (composer : Composer)
  | useRegistry
  | newComposer
  | use

/-- The installation after an event. -/
def after (installation : Installation) : Event → Installation
  | .installRegistry registry => (installation.installRegistry registry).1
  | .install composer => (installation.install composer).1
  | .useRegistry => installation.useRegistry.1
  | .newComposer => installation.newComposer.1
  | .use => installation.use.1

/-- The installation after events in order. -/
def run (installation : Installation) (events : List Event) : Installation :=
  events.foldl after installation

/-- What is settled in one installation is settled alike in another one. -/
structure SettledIn (first second : Installation) : Prop where
  registry {registry : Registry} (hsettled : first.registry = some registry) :
    second.registry = some registry
  composer {composer : Composer} (hsettled : first.composer = some composer) :
    second.composer = some composer

theorem SettledIn.refl (installation : Installation) : installation.SettledIn installation :=
  ⟨id, id⟩

theorem SettledIn.trans {first second third : Installation} (hfirst : first.SettledIn second)
    (hsecond : second.SettledIn third) : first.SettledIn third :=
  ⟨hsecond.registry ∘ hfirst.registry, hsecond.composer ∘ hfirst.composer⟩

theorem settled_withRegistry {installation : Installation}
    (hunsettled : installation.registry = none) (registry : Registry) :
    installation.SettledIn { installation with registry := some registry } :=
  ⟨fun hsettled ↦ absurd (hunsettled.symm.trans hsettled) nofun, id⟩

theorem settled_withComposer {installation : Installation}
    (hunsettled : installation.composer = none) (composer : Composer) :
    installation.SettledIn { installation with composer := some composer } :=
  ⟨id, fun hsettled ↦ absurd (hunsettled.symm.trans hsettled) nofun⟩

theorem settled_useRegistry (installation : Installation) :
    installation.SettledIn installation.useRegistry.1 := by
  unfold useRegistry
  split
  next => exact .refl installation
  next hnone => exact settled_withRegistry hnone _

theorem composer_useRegistry (installation : Installation) :
    installation.useRegistry.1.composer = installation.composer := by
  unfold useRegistry
  split <;> rfl

/-- No event changes what is settled. -/
theorem settled_after (installation : Installation) (event : Event) :
    installation.SettledIn (installation.after event) := by
  cases event with
  | installRegistry registry =>
    simp only [after, installRegistry]
    split
    next => exact .refl installation
    next hnone => exact settled_withRegistry hnone registry
  | install composer =>
    simp only [after, install]
    split
    next => exact .refl installation
    next hnone => exact settled_withComposer hnone composer
  | useRegistry => exact installation.settled_useRegistry
  | newComposer => exact installation.settled_useRegistry
  | use =>
    simp only [after, use]
    split
    next => exact .refl installation
    next hnone =>
      have hstill : installation.newComposer.1.composer = none :=
        (installation.composer_useRegistry).trans hnone
      exact installation.settled_useRegistry.trans (settled_withComposer hstill _)

theorem settled_run (installation : Installation) (events : List Event) :
    installation.SettledIn (installation.run events) := by
  induction events generalizing installation with
  | nil => exact .refl installation
  | cons event rest ih => exact (installation.settled_after event).trans (ih _)

theorem composer_use (installation : Installation) :
    installation.use.1.composer = some installation.use.2 := by
  unfold use
  split
  · assumption
  · rfl

theorem use_of_settled {installation : Installation} {composer : Composer}
    (hsettled : installation.composer = some composer) :
    installation.use = (installation, composer) := by
  rw [use, hsettled]

/-- After the first use of a composer every use gets the same one, and no other is installed. -/
theorem use_run_use (installation : Installation) (events : List Event) :
    let later := installation.use.1.run events
    later.use = (later, installation.use.2) ∧
      ∀ composer, later.install composer = (later, false) := by
  intro later
  have hsettled : later.composer = some installation.use.2 :=
    (installation.use.1.settled_run events).composer installation.composer_use
  exact ⟨use_of_settled hsettled, fun composer ↦ by rw [install, hsettled]⟩

/-- The composer of an installation that is not refused is the one that every use gets. -/
theorem use_run_install {installation : Installation} {composer : Composer}
    (hinstalled : (installation.install composer).2 = true) (events : List Event) :
    (((installation.install composer).1).run events).use.2 = composer := by
  have hcomposer : (installation.install composer).1.composer = some composer := by
    unfold install at hinstalled ⊢
    split at hinstalled
    · cases hinstalled
    · rfl
  rw [use_of_settled ((settled_run _ events).composer hcomposer)]

/-- The first use of a composer uses the registry as well, so none is installed from then on. -/
theorem installRegistry_run_use {installation : Installation}
    (hunsettled : installation.composer = none) (events : List Event) (registry : Registry) :
    (((installation.use.1).run events).installRegistry registry).2 = false := by
  have hsettled : installation.use.1.registry = some installation.use.2.registry := by
    obtain ⟨settled, composer⟩ := installation
    obtain rfl : composer = none := hunsettled
    cases settled <;> rfl
  rw [installRegistry, (settled_run _ events).registry hsettled]

end Installation

end KeyPathQuery
