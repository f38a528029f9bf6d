import KeyPathQuery.CommandLine.Report
import KeyPathQuery.Proofs.CommandLine.Asks

/-!
The order of the options. What occurrences ask for lies in which of them are there and in the order
among those of one option that names operations (`Asks.reorder`); whether they fit together does
not depend on any order (`Fits.perm`). So options can be moved past options of another kind, and
spelled in another way, and the run is the same.

Main statement: `run_reordered`.
-/

set_option autoImplicit false
set_option relaxedAutoImplicit false

namespace KeyPathQuery.CommandLine

variable {first second : List Occurrence}

/-- Occurrences fit together in every order. -/
theorem Occurrence.Fits.perm {seen : List Setting} (hfits : Fits seen first)
    (hsame : first.Perm second) : Fits seen second where
  runs occurrence hmem := hfits.runs occurrence (hsame.mem_iff.mpr hmem)
  fresh occurrence hmem := hfits.fresh occurrence (hsame.mem_iff.mpr hmem)
  once := (hsame.pairwise_iff fun honce hsetting ↦ hsetting ▸ honce hsetting.symm).mp hfits.once
  path occurrence hmem := hfits.path occurrence (hsame.mem_iff.mpr hmem)

namespace Arguments

/-- What occurrences ask for does not depend on the order of those of different options. -/
theorem Asks.reorder {asked : Arguments} (hasks : Asks first asked) (hsame : first.Perm second)
    (horder : ∀ setting ∈ operationSettings,
      occurrencesOf setting first = occurrencesOf setting second) : Asks second asked where
  driver := hsame.mem_iff.mp hasks.driver
  table := by
    rcases hasks.table with hoccurs | ⟨habsent, hstandard⟩
    · exact .inl (hsame.mem_iff.mp hoccurs)
    · exact .inr ⟨fun occurrence hmem ↦ habsent occurrence (hsame.mem_iff.mpr hmem), hstandard⟩
  config path := (hasks.config path).trans hsame.mem_iff
  operations := by
    rw [← List.flatMap_congr horder]
    exact hasks.operations
  inline := hasks.inline.trans hsame.mem_iff
  check := hasks.check.trans hsame.mem_iff

theorem asks_reorder_iff {asked : Arguments} (hsame : first.Perm second)
    (horder : ∀ setting ∈ operationSettings,
      occurrencesOf setting first = occurrencesOf setting second) :
    Asks first asked ↔ Asks second asked :=
  ⟨fun hasks ↦ hasks.reorder hsame horder,
    fun hasks ↦ hasks.reorder hsame.symm fun setting hsetting ↦ (horder setting hsetting).symm⟩

/-- Reordered occurrences of which one list fits together ask for the same. -/
theorem ofOccurrences?_reordered {firstArguments secondArguments : List Text}
    (hfirst : Occurrence.Spells firstArguments first)
    (hsecond : Occurrence.Spells secondArguments second) {seen : List Setting}
    (hfits : Occurrence.Fits seen first) (hsame : first.Perm second)
    (horder : ∀ setting ∈ operationSettings,
      occurrencesOf setting first = occurrencesOf setting second) :
    ofOccurrences? first = ofOccurrences? second := by
  apply Option.ext
  intro asked
  rw [ofOccurrences?_eq_some_iff hfirst hfits,
    ofOccurrences?_eq_some_iff hsecond (hfits.perm hsame), asks_reorder_iff hsame horder]

end Arguments

namespace Report

/-- If an accepted list of arguments spells occurrences, then every list that spells them in
another order is accepted and gets the same answer, as long as the occurrences of each option that
may be repeated stay in order among themselves. -/
theorem run_reordered {firstArguments secondArguments : List Text}
    (hfirst : Occurrence.readFrom [] firstArguments = .ok first)
    (hsecond : Occurrence.Spells secondArguments second) (hsame : first.Perm second)
    (horder : ∀ setting : Setting, setting.isRepeatable = true →
      occurrencesOf setting first = occurrencesOf setting second) :
    Occurrence.readFrom [] secondArguments = .ok second ∧
      ∀ userPath file parser help,
        run userPath file firstArguments parser help =
          run userPath file secondArguments parser help := by
  obtain ⟨hspells, hfits⟩ := Occurrence.readFrom_eq_ok_iff.mp hfirst
  have hread : Occurrence.readFrom [] secondArguments = .ok second :=
    Occurrence.readFrom_of_spells hsecond (hfits.perm hsame)
  have hoperations : ∀ setting ∈ Arguments.operationSettings, setting.isRepeatable = true := by
    decide
  have hasked : Arguments.ofOccurrences? first = Arguments.ofOccurrences? second :=
    Arguments.ofOccurrences?_reordered hspells hsecond hfits hsame fun setting hsetting ↦
      horder setting (hoperations setting hsetting)
  have harguments : Arguments.read firstArguments = Arguments.read secondArguments := by
    simp only [Arguments.read, hfirst, hread, hasked]
  -- Nothing but what the arguments ask for goes into the run.
  refine ⟨hread, fun userPath file parser help ↦ ?_⟩
  rw [run, run, harguments]

/-- The check, the driver and a projection are moved past filters, and spelled in other ways. -/
theorem run_reordered_across_filters :
    let firstArguments := ["-d".toList, "pgsql".toList,
      "--filter".toList, "meta->age".toList, ">".toList, "18".toList,
      "--filter".toList, "meta->age".toList, "<".toList, "65".toList,
      "--select".toList, "meta->name".toList, "--check".toList]
    let secondArguments := ["--check".toList, "--select=meta->name".toList,
      "--filter".toList, "meta->age".toList, ">".toList, "18".toList, "--driver=pgsql".toList,
      "--filter".toList, "meta->age".toList, "<".toList, "65".toList]
    (∃ occurrences, Occurrence.readFrom [] secondArguments = .ok occurrences) ∧
      ∀ userPath file parser help,
        run userPath file firstArguments parser help =
          run userPath file secondArguments parser help := by
  intro firstArguments secondArguments
  have hlower : Occurrence.Spelling ⟨.filter, ["meta->age".toList, ">".toList, "18".toList]⟩
      ["--filter".toList, "meta->age".toList, ">".toList, "18".toList] :=
    .separate (.long .filter) rfl (by decide)
  have hupper : Occurrence.Spelling ⟨.filter, ["meta->age".toList, "<".toList, "65".toList]⟩
      ["--filter".toList, "meta->age".toList, "<".toList, "65".toList] :=
    .separate (.long .filter) rfl (by decide)
  have hcheck : Occurrence.Spelling ⟨.check, []⟩ ["--check".toList] :=
    .separate (.long .check) rfl (by decide)
  have hletter : Occurrence.Spelling ⟨.driver, ["pgsql".toList]⟩ ["-d".toList, "pgsql".toList] :=
    .separate (.letter rfl) rfl (by decide)
  have hdriver : Occurrence.Spelling ⟨.driver, ["pgsql".toList]⟩ ["--driver=pgsql".toList] :=
    .attached (.longEquals .driver _) rfl
  have hselect : Occurrence.Spelling ⟨.select, ["meta->name".toList]⟩
      ["--select".toList, "meta->name".toList] :=
    .separate (.long .select) rfl (by decide)
  have hattached : Occurrence.Spelling ⟨.select, ["meta->name".toList]⟩
      ["--select=meta->name".toList] :=
    .attached (.longEquals .select _) rfl
  have hfirst : Occurrence.Spells firstArguments
      [⟨.driver, ["pgsql".toList]⟩,
        ⟨.filter, ["meta->age".toList, ">".toList, "18".toList]⟩,
        ⟨.filter, ["meta->age".toList, "<".toList, "65".toList]⟩,
        ⟨.select, ["meta->name".toList]⟩, ⟨.check, []⟩] :=
    .cons hletter (.cons hlower (.cons hupper (.cons hselect (.cons hcheck .nil))))
  have hsecond : Occurrence.Spells secondArguments
      [⟨.check, []⟩, ⟨.select, ["meta->name".toList]⟩,
        ⟨.filter, ["meta->age".toList, ">".toList, "18".toList]⟩, ⟨.driver, ["pgsql".toList]⟩,
        ⟨.filter, ["meta->age".toList, "<".toList, "65".toList]⟩] :=
    .cons hcheck (.cons hattached (.cons hlower (.cons hdriver (.cons hupper .nil))))
  have hread := Occurrence.readFrom_of_spells hfirst
    (⟨by decide, by decide, by decide, by decide⟩ : Occurrence.Fits [] _)
  obtain ⟨haccepted, hrun⟩ :=
    run_reordered hread hsecond (by decide) fun setting _ ↦ by cases setting <;> rfl
  exact ⟨⟨_, haccepted⟩, hrun⟩

end Report

end KeyPathQuery.CommandLine
