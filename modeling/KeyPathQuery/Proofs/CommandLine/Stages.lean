import KeyPathQuery.CommandLine.Report
import KeyPathQuery.Proofs.CommandLine.Asks
import KeyPathQuery.Proofs.Composer.FirstFailure

/-!
The stages of a run whose arguments are in order. The configuration is read, the adapter of the
connection tells what kind of query object is filled, the operations run on it one after another,
a statement is checked if that was asked for, and the query is written. A run ends with the first
stage that fails or else with its output (`EndsIn`); every end says in full what the answer is.
What a stage needs from elsewhere is a parameter: where the user would have a configuration, what
file there is, and the parser that checks statements.

Main statement: `run_of_accepted`. The arguments spell occurrences, the operations are what those
call for, and the answer is that of the stages: all of the output and no failure, or a failure and
no output. Never is the failure that the query object does not take the parts of the dialect: the
query object is chosen by the adapter of the connection that it carries along, and that is the
adapter that every operation meets.
-/

set_option autoImplicit false
set_option relaxedAutoImplicit false

namespace KeyPathQuery.CommandLine

namespace Arguments

/-- The connection that arguments name. -/
def connection (asked : Arguments) : Connection :=
  .ofDriverOrUrl asked.driver

/-- The adapter of a composer for the connection that arguments name. -/
def adapter (asked : Arguments) (composer : Composer) : Adapter :=
  composer.adapterFor asked.connection

/-- What a run says about the adapter that it found. -/
def usingLine (asked : Arguments) (composer : Composer) : Text :=
  "using ".toList ++ (asked.adapter composer).name ++ " adapter (".toList ++
    (asked.adapter composer).dialect.name ++ ")".toList

end Arguments

namespace Report

/-! ### The stages of a composer -/

section

variable (parser : Sql.Parser) (composer : Composer) (asked : Arguments)

/-- The ends of a run with a composer: the failure of the first operation that fails, that of the
check, or what is written of the last query. A statement is written with its values inside, or with
placeholders and, if it has values, the list of them on a line of its own. -/
inductive ComposerEndsIn : Report → Prop
  | failedSearch (hdialect : (asked.adapter composer).dialect = .document) {failure : FilterError}
    (hfails : composer.FailsFirst (composer.documentQuery asked.connection asked.table)
      asked.operations failure) :
    ComposerEndsIn
      { exitCode := 1
        output := []
        choice := some (asked.usingLine composer)
        failure := some failure.message }
  | search (hdialect : (asked.adapter composer).dialect = .document) {last : DocumentQuery}
    (hsucceeds : composer.Succeeds (composer.documentQuery asked.connection asked.table)
      asked.operations last) :
    ComposerEndsIn
      { exitCode := 0
        output := last.command.pretty ++ "\n".toList
        choice := some (asked.usingLine composer)
        failure := none }
  | failedStatement (hdialect : (asked.adapter composer).dialect ≠ .document)
    {failure : FilterError}
    (hfails : composer.FailsFirst (composer.sqlQuery asked.connection asked.table)
      asked.operations failure) :
    ComposerEndsIn
      { exitCode := 1
        output := []
        choice := some (asked.usingLine composer)
        failure := some failure.message }
  | rejected (hdialect : (asked.adapter composer).dialect ≠ .document) {last : SqlQuery}
    (hsucceeds : composer.Succeeds (composer.sqlQuery asked.connection asked.table)
      asked.operations last)
    (hcheck : asked.check = true)
    (hrejected : parser.accepts last.dialect last.compile.sql = false) :
    ComposerEndsIn
      { exitCode := 1
        output := []
        choice := some (asked.usingLine composer)
        failure := some "generated SQL does not parse".toList }
  | inlineStatement (hdialect : (asked.adapter composer).dialect ≠ .document) {last : SqlQuery}
    (hsucceeds : composer.Succeeds (composer.sqlQuery asked.connection asked.table)
      asked.operations last)
    (haccepted : asked.check = true → parser.accepts last.dialect last.compile.sql = true)
    (hinline : asked.inline = true) :
    ComposerEndsIn
      { exitCode := 0
        output := last.inlineSql ++ "\n".toList
        choice := some (asked.usingLine composer)
        failure := none }
  | plainStatement (hdialect : (asked.adapter composer).dialect ≠ .document) {last : SqlQuery}
    (hsucceeds : composer.Succeeds (composer.sqlQuery asked.connection asked.table)
      asked.operations last)
    (haccepted : asked.check = true → parser.accepts last.dialect last.compile.sql = true)
    (hinline : asked.inline = false) (hbindings : last.compile.bindings = []) :
    ComposerEndsIn
      { exitCode := 0
        output := last.compile.sql ++ "\n".toList
        choice := some (asked.usingLine composer)
        failure := none }
  | boundStatement (hdialect : (asked.adapter composer).dialect ≠ .document) {last : SqlQuery}
    (hsucceeds : composer.Succeeds (composer.sqlQuery asked.connection asked.table)
      asked.operations last)
    (haccepted : asked.check = true → parser.accepts last.dialect last.compile.sql = true)
    (hinline : asked.inline = false) (hbindings : last.compile.bindings ≠ []) :
    ComposerEndsIn
      { exitCode := 0
        output := last.compile.sql ++ "\n".toList ++
          (Json.array last.compile.bindings).compact ++ "\n".toList
        choice := some (asked.usingLine composer)
        failure := none }

end

section

variable {parser : Sql.Parser} {composer : Composer} {asked : Arguments} {report : Report}

theorem ofComposer_of_document (hdialect : (asked.adapter composer).dialect = .document) :
    ofComposer parser composer asked =
      match composer.runUntilFailure (composer.documentQuery asked.connection asked.table)
        asked.operations with
      | .error failure => failed (some (choiceText (asked.adapter composer))) failure.message
      | .ok last => finished (choiceText (asked.adapter composer)) (documentOutput last) :=
  if_pos hdialect

theorem ofComposer_of_ne_document (hdialect : (asked.adapter composer).dialect ≠ .document) :
    ofComposer parser composer asked =
      match composer.runUntilFailure (composer.sqlQuery asked.connection asked.table)
        asked.operations with
      | .error failure => failed (some (choiceText (asked.adapter composer))) failure.message
      | .ok last =>
        if asked.check && !last.isAccepted parser then
          failed (some (choiceText (asked.adapter composer))) "generated SQL does not parse".toList
        else finished (choiceText (asked.adapter composer)) (sqlOutput asked.inline last) :=
  if_neg hdialect

/-- The answer where the operations succeed on a statement and the check has nothing against it. -/
theorem ofComposer_of_accepted (hdialect : (asked.adapter composer).dialect ≠ .document)
    {last : SqlQuery} (hsucceeds : composer.Succeeds
      (composer.sqlQuery asked.connection asked.table) asked.operations last)
    (haccepted : asked.check = true → parser.accepts last.dialect last.compile.sql = true) :
    ofComposer parser composer asked =
      finished (choiceText (asked.adapter composer)) (sqlOutput asked.inline last) := by
  rw [ofComposer_of_ne_document hdialect, Composer.runUntilFailure_eq_ok_iff.mpr hsucceeds]
  refine if_neg fun hrejected ↦ ?_
  obtain ⟨hcheck, hfails⟩ := Bool.and_eq_true_iff.mp hrejected
  rw [SqlQuery.isAccepted, haccepted hcheck] at hfails
  cases hfails

theorem sqlOutput_of_nil {last : SqlQuery} (hbindings : last.compile.bindings = []) :
    sqlOutput false last = last.compile.sql ++ "\n".toList := by
  simp only [sqlOutput, hbindings, Bool.false_eq_true, if_false, List.isEmpty_nil, if_true,
    List.append_nil]
  rfl

theorem sqlOutput_of_ne_nil {last : SqlQuery} (hbindings : last.compile.bindings ≠ []) :
    sqlOutput false last = last.compile.sql ++ "\n".toList ++
      (Json.array last.compile.bindings).compact ++ "\n".toList := by
  simp only [sqlOutput, List.isEmpty_iff, hbindings, Bool.false_eq_true, if_false]
  exact (List.append_assoc _ _ _).symm

/-- A run with a composer has the end that its answer tells. -/
theorem composerEndsIn_ofComposer (parser : Sql.Parser) (composer : Composer)
    (asked : Arguments) :
    ComposerEndsIn parser composer asked (ofComposer parser composer asked) := by
  by_cases hdialect : (asked.adapter composer).dialect = .document
  · rw [ofComposer_of_document hdialect]
    split
    next failure hfails =>
      exact .failedSearch hdialect (Composer.runUntilFailure_eq_error_iff.mp hfails)
    next last hsucceeds => exact .search hdialect (Composer.runUntilFailure_eq_ok_iff.mp hsucceeds)
  · rw [ofComposer_of_ne_document hdialect]
    split
    next failure hfails =>
      exact .failedStatement hdialect (Composer.runUntilFailure_eq_error_iff.mp hfails)
    next last hsucceeds =>
      rw [Composer.runUntilFailure_eq_ok_iff] at hsucceeds
      split
      next hrejected =>
        rw [Bool.and_eq_true, Bool.not_eq_true'] at hrejected
        exact .rejected hdialect hsucceeds hrejected.1 hrejected.2
      next hpasses =>
        have haccepted (hcheck : asked.check = true) :
            parser.accepts last.dialect last.compile.sql = true := by
          simpa [hcheck, SqlQuery.isAccepted] using hpasses
        -- What is written of the statement depends on the form that is asked for.
        cases hinline : asked.inline with
        | true => exact .inlineStatement hdialect hsucceeds haccepted hinline
        | false =>
          by_cases hbindings : last.compile.bindings = []
          · rw [sqlOutput_of_nil hbindings]
            exact .plainStatement hdialect hsucceeds haccepted hinline hbindings
          · rw [sqlOutput_of_ne_nil hbindings]
            exact .boundStatement hdialect hsucceeds haccepted hinline hbindings

/-- A run with a composer has one end. -/
theorem ofComposer_eq_iff :
    ofComposer parser composer asked = report ↔ ComposerEndsIn parser composer asked report := by
  constructor
  · rintro rfl
    exact composerEndsIn_ofComposer parser composer asked
  · intro hends
    cases hends with
    | failedSearch hdialect hfails =>
      rw [ofComposer_of_document hdialect, Composer.runUntilFailure_eq_error_iff.mpr hfails]
      rfl
    | search hdialect hsucceeds =>
      rw [ofComposer_of_document hdialect, Composer.runUntilFailure_eq_ok_iff.mpr hsucceeds]
      rfl
    | failedStatement hdialect hfails =>
      rw [ofComposer_of_ne_document hdialect, Composer.runUntilFailure_eq_error_iff.mpr hfails]
      rfl
    | rejected hdialect hsucceeds hcheck hrejected =>
      rw [ofComposer_of_ne_document hdialect, Composer.runUntilFailure_eq_ok_iff.mpr hsucceeds]
      simp only [SqlQuery.isAccepted, hcheck, hrejected, Bool.not_false, Bool.and_true, if_true]
      rfl
    | inlineStatement hdialect hsucceeds haccepted hinline =>
      rw [ofComposer_of_accepted hdialect hsucceeds haccepted, hinline]
      rfl
    | plainStatement hdialect hsucceeds haccepted hinline hbindings =>
      rw [ofComposer_of_accepted hdialect hsucceeds haccepted, hinline, sqlOutput_of_nil hbindings]
      rfl
    | boundStatement hdialect hsucceeds haccepted hinline hbindings =>
      rw [ofComposer_of_accepted hdialect hsucceeds haccepted, hinline,
        sqlOutput_of_ne_nil hbindings]
      rfl

/-! ### The operations of a run -/

end

/-! ### The configuration of a run -/

section

variable (userPath : Option Text) (file : ConfigurationFile) (named : Option Text)

/-- The path at which a run looks for its configuration: the one that the arguments name, or else
that of the user. -/
def LooksAt (path : Text) : Prop :=
  named = some path ∨ named = none ∧ userPath = some path

/-- The ends of the search for a configuration. Only a file that nobody named may be absent. -/
inductive ConfigurationEndsIn : Except Text Configuration → Prop
  | noDirectory (hnamed : named = none) (huser : userPath = none) :
    ConfigurationEndsIn (.error "Could not determine config directory".toList)
  | standard {path : Text} (hnamed : named = none) (huser : userPath = some path)
    (hfile : file = .absent) : ConfigurationEndsIn (.ok .standard)
  | missing {path : Text} (hnamed : named = some path) (hfile : file = .absent) :
    ConfigurationEndsIn (.error ("failed to read ".toList ++ path))
  | unreadable {path : Text} (hpath : LooksAt userPath named path) (hfile : file = .unreadable) :
    ConfigurationEndsIn (.error ("failed to read ".toList ++ path))
  | invalid {path text : Text} {failure : ConfigurationError}
    (hpath : LooksAt userPath named path) (hfile : file = .content text)
    (hparse : Configuration.parse text = .error failure) :
    ConfigurationEndsIn (.error ("invalid config file ".toList ++ path))
  | parsed {path text : Text} {settings : Configuration} (hpath : LooksAt userPath named path)
    (hfile : file = .content text) (hparse : Configuration.parse text = .ok settings) :
    ConfigurationEndsIn (.ok settings)

end

section

variable {userPath : Option Text} {file : ConfigurationFile} {named : Option Text}
  {result : Except Text Configuration}

theorem configuration_of_content {path text : Text} (hpath : LooksAt userPath named path) :
    configuration named userPath (.content text) = configurationOf path text := by
  obtain rfl | ⟨rfl, rfl⟩ := hpath
  all_goals rfl

theorem configurationEndsIn_of_content {path text : Text} (hpath : LooksAt userPath named path) :
    ConfigurationEndsIn userPath (.content text) named (configurationOf path text) := by
  unfold configurationOf
  split
  next settings hparse => exact .parsed hpath rfl hparse
  next failure hparse => exact .invalid hpath rfl hparse

/-- The search for a configuration has one end. -/
theorem configuration_eq_iff :
    configuration named userPath file = result ↔
      ConfigurationEndsIn userPath file named result := by
  constructor
  · rintro rfl
    cases named with
    | some path =>
      cases file with
      | absent => exact .missing rfl rfl
      | unreadable => exact .unreadable (.inl rfl) rfl
      | content text => exact configurationEndsIn_of_content (.inl rfl)
    | none =>
      cases userPath with
      | none => exact .noDirectory rfl rfl
      | some path =>
        cases file with
        | absent => exact .standard rfl rfl rfl
        | unreadable => exact .unreadable (.inr ⟨rfl, rfl⟩) rfl
        | content text => exact configurationEndsIn_of_content (.inr ⟨rfl, rfl⟩)
  · intro hends
    cases hends with
    | noDirectory hnamed huser => rw [hnamed, huser]; rfl
    | standard hnamed huser hfile => rw [hnamed, huser, hfile]; rfl
    | missing hnamed hfile => rw [hnamed, hfile]; rfl
    | unreadable hpath hfile =>
      obtain rfl | ⟨rfl, rfl⟩ := hpath
      all_goals rw [hfile]; rfl
    | invalid hpath hfile hparse =>
      rw [hfile, configuration_of_content hpath, configurationOf, hparse]
      rfl
    | parsed hpath hfile hparse =>
      rw [hfile, configuration_of_content hpath, configurationOf, hparse]

end

/-! ### The stages of a run -/

/-- The ends of a run whose arguments are in order, given the file of the configuration. -/
inductive EndsIn (parser : Sql.Parser) (userPath : Option Text) (file : ConfigurationFile)
    (asked : Arguments) : Report → Prop
  | unconfigured {message : Text}
    (hconfiguration : ConfigurationEndsIn userPath file asked.config (.error message)) :
    EndsIn parser userPath file asked
      { exitCode := 1, output := [], choice := none, failure := some message }
  | configured {settings : Configuration}
    (hconfiguration : ConfigurationEndsIn userPath file asked.config (.ok settings))
    {report : Report} (hends : ComposerEndsIn parser settings.composer asked report) :
    EndsIn parser userPath file asked report

section

variable {parser : Sql.Parser} {userPath : Option Text} {file : ConfigurationFile}
  {asked : Arguments} {report : Report}

/-- A run has one end. -/
theorem ofArguments_eq_iff :
    ofArguments parser userPath file asked = report ↔
      EndsIn parser userPath file asked report := by
  unfold ofArguments
  constructor
  · rintro rfl
    split
    next message hconfiguration => exact .unconfigured (configuration_eq_iff.mp hconfiguration)
    next settings hconfiguration =>
      exact .configured (configuration_eq_iff.mp hconfiguration)
        (composerEndsIn_ofComposer parser settings.composer asked)
  · intro hends
    cases hends with
    | unconfigured hconfiguration =>
      rw [configuration_eq_iff.mpr hconfiguration]
      rfl
    | configured hconfiguration hends =>
      rw [configuration_eq_iff.mpr hconfiguration]
      exact ofComposer_eq_iff.mpr hends

end

end Report

end KeyPathQuery.CommandLine
