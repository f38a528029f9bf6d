import KeyPathQuery.Proofs.Registry.Selection
import KeyPathQuery.Proofs.Text.LowerCasePart

/-!
Whether a fragment that stands in an identity of a connection as it is spelled is found there. The
two are brought to lower case before the one is looked for in the other, each as a whole, and the
small letter of a capital sigma depends on what stands around it. So a fragment is found wherever
its capital sigmas keep the small letters that they have in the fragment alone. It is found in
every identity that holds it exactly if it settles these letters by itself, as one without capital
sigmas does. One that ends in a sigma after a letter does not: `ΟΔΟΣ` is not found in `ΟΔΟΣΑ`
(`not_forall_identityContains_of_infix`).

A route is recognised by its fragment and by nothing else, so all of this carries over to routes and
to the registry that a route has just come to.

Main statement: `identityContains_of_verbatim`.
-/

set_option autoImplicit false
set_option relaxedAutoImplicit false

namespace KeyPathQuery

namespace Connection

/-- A fragment is found in an identity that holds it, if its capital sigmas keep their small letters
there. -/
theorem identityContains_of_keepsSigmas {connection : Connection} {before fragment after : Text}
    (hidentity : before ++ fragment ++ after ∈ connection.identities)
    (hkeeps : fragment.KeepsSigmas before.reverse after) :
    connection.identityContains [fragment] = true :=
  identityContains_singleton_iff.mpr
    ⟨_, hidentity, Text.lowerCase_infix_of_keepsSigmas hkeeps⟩

theorem identityContains_ofDriver_iff {driver fragment : Text} :
    (ofDriver driver).identityContains [fragment] = true ↔
      fragment.lowerCase <:+: driver.lowerCase := by
  simp [identityContains_singleton_iff, identities, ofDriver]

/-- A fragment is found in every connection that holds it exactly if it settles the form of its
capital sigmas. -/
theorem forall_identityContains_of_infix_iff {fragment : Text} :
    (∀ connection : Connection, ∀ identity ∈ connection.identities, fragment <:+: identity →
      connection.identityContains [fragment] = true) ↔ fragment.SettlesSigmas := by
  rw [← Text.forall_lowerCase_infix_iff]
  constructor
  · intro hfound whole hwhole
    have hdriver : whole ∈ (ofDriver whole).identities := List.mem_singleton_self whole
    exact identityContains_ofDriver_iff.mp (hfound _ _ hdriver hwhole)
  · intro hlower connection identity hidentity hinfix
    exact identityContains_singleton_iff.mpr ⟨identity, hidentity, hlower identity hinfix⟩

end Connection

namespace Registry

/-- A route that is accepted gets the connections that it takes. -/
theorem select_register_of_accepts {registry : Registry} {adapter : Adapter}
    {connection : Connection} (hfree : registry.isFree adapter.name = true)
    (haccepts : adapter.accepts connection = true) :
    (registry.register adapter).select connection = adapter := by
  rw [select_register, hfree, haccepts]
  rfl

/-- A fragment is found in an identity that holds it if its capital sigmas keep their small letters
there, and in every identity that holds it exactly if it settles these letters, as a fragment
without capital sigmas does. A route takes the connections in which its fragment is found, and gets
them when it is registered under a free name. -/
theorem identityContains_of_verbatim (fragment : Text) :
    (∀ (connection : Connection) (before after : Text),
      before ++ fragment ++ after ∈ connection.identities →
      fragment.KeepsSigmas before.reverse after →
        connection.identityContains [fragment] = true) ∧
    ((∀ connection : Connection, ∀ identity ∈ connection.identities, fragment <:+: identity →
      connection.identityContains [fragment] = true) ↔ fragment.SettlesSigmas) ∧
    ('Σ' ∉ fragment → fragment.SettlesSigmas) ∧
    ∀ (connection : Connection) (dialect : Dialect),
      connection.identityContains [fragment] = true →
        (Adapter.route fragment dialect).accepts connection = true ∧
        ∀ registry : Registry,
          registry.isFree (Adapter.route fragment dialect).name = true →
          (registry.register (.route fragment dialect)).select connection =
            .route fragment dialect := by
  refine ⟨fun connection before after ↦ Connection.identityContains_of_keepsSigmas,
    Connection.forall_identityContains_of_infix_iff, Text.settlesSigmas_of_notMem,
    fun connection dialect hfound ↦ ?_⟩
  have haccepts : (Adapter.route fragment dialect).accepts connection = true :=
    (Adapter.accepts_route fragment dialect connection).trans hfound
  exact ⟨haccepts, fun registry hfree ↦ select_register_of_accepts hfree haccepts⟩

/-- A sigma that ends the fragment goes on as a word in the driver, so the fragment is not found. -/
theorem not_forall_identityContains_of_infix :
    ¬ ∀ (fragment : Text) (connection : Connection), fragment ≠ [] →
      ∀ identity ∈ connection.identities, fragment <:+: identity →
        connection.identityContains [fragment] = true := by
  intro hfound
  have hdriver : "ΟΔΟΣΑ".toList ∈ (Connection.ofDriver "ΟΔΟΣΑ".toList).identities :=
    List.mem_singleton_self _
  have hcontains := hfound "ΟΔΟΣ".toList _ (by decide) _ hdriver ⟨[], ['Α'], rfl⟩
  have hnot : (Connection.ofDriver "ΟΔΟΣΑ".toList).identityContains ["ΟΔΟΣ".toList] = false := by
    decide +kernel
  exact Bool.noConfusion (hnot.symm.trans hcontains)

end Registry

end KeyPathQuery
