import KeyPathQuery.CommandLine.Arguments
import KeyPathQuery.Configuration

/-!
What the command line answers. With arguments in order it reads a configuration, names the
adapter that it chose for the connection, runs the operations up to the first that fails, and
writes the query: a document as indented JSON, a statement with its values on a line of their
own, or the statement with its values inside. The parser that checks a statement is a parameter,
and so is the text that help consists of.
-/

set_option autoImplicit false
set_option relaxedAutoImplicit false

namespace KeyPathQuery.CommandLine

/-- What is found at the path of a configuration. -/
inductive ConfigurationFile where
  | absent
  /-- There is something that gives no text. -/
  | unreadable
  | content (text : Text)
deriving DecidableEq, Repr

/-- The answer of the command line. -/
structure Report where
  exitCode : Nat
  /-- What is written. -/
  output : Text := []
  /-- The adapter that was chosen, in words. -/
  choice : Option Text := none
  /-- Why the run failed, in words. -/
  failure : Option Text := none
deriving DecidableEq, Repr

namespace Report

/-- The version of the program, as it answers. -/
def versionText : Text := "jsonq 0.1.0\n".toList

/-- The exit code of a run whose arguments are at fault. -/
def misuseCode : Nat := 2

/-- The answer to arguments that lead to no query. -/
def ofEnding (help : Text) : Ending → Report
  | .misuse => { exitCode := misuseCode }
  | .help => { exitCode := 0, output := help }
  | .version => { exitCode := 0, output := versionText }

/-- A failed run. -/
def failed (choice : Option Text) (message : Text) : Report where
  exitCode := 1
  choice := choice
  failure := some message

/-- A finished run. -/
def finished (choice output : Text) : Report where
  exitCode := 0
  output := output
  choice := some choice

/-- The failure to read a configuration. -/
def unreadableMessage (path : Text) : Text :=
  "failed to read ".toList ++ path

/-- The failure to understand a configuration. -/
def invalidMessage (path : Text) : Text :=
  "invalid config file ".toList ++ path

/-- The configuration in the text of a file. -/
def configurationOf (path text : Text) : Except Text Configuration :=
  match Configuration.parse text with
  | .ok configuration => .ok configuration
  | .error _ => .error (invalidMessage path)

/-- The failure to find a place where the user would have a configuration. -/
def noDirectoryMessage : Text :=
  "Could not determine config directory".toList

/-- The configuration of a run: that of the file that the arguments name, which must be there, or
else that of the user, which may be absent, but whose path must be known. -/
def configuration (named userPath : Option Text) (file : ConfigurationFile) :
    Except Text Configuration :=
  match named, userPath, file with
  | some path, _, .content text => configurationOf path text
  | some path, _, _ => .error (unreadableMessage path)
  | none, none, _ => .error noDirectoryMessage
  | none, some path, .content text => configurationOf path text
  | none, some path, .unreadable => .error (unreadableMessage path)
  | none, some _, .absent => .ok .standard

/-- An adapter in words. -/
def choiceText (adapter : Adapter) : Text :=
  "using ".toList ++ adapter.name ++ " adapter (".toList ++ adapter.dialect.name ++ [')']

/-- The text of a document query. -/
def documentOutput (query : DocumentQuery) : Text :=
  query.command.pretty ++ ['\n']

/-- The text of a statement: with its values inside, or with placeholders and its values, if
there are any, as a JSON array on a line of their own. -/
def sqlOutput (inline : Bool) (query : SqlQuery) : Text :=
  if inline then query.inlineSql ++ ['\n']
  else
    let compiled := query.compile
    compiled.sql ++ ['\n'] ++
      if compiled.bindings.isEmpty then []
      else (Json.array compiled.bindings).compact ++ ['\n']

/-- The answer of a run with a composer. -/
def ofComposer (parser : Sql.Parser) (composer : Composer) (arguments : Arguments) : Report :=
  let connection := Connection.ofDriverOrUrl arguments.driver
  let adapter := composer.adapterFor connection
  let choice := choiceText adapter
  if adapter.dialect = .document then
    let start := composer.documentQuery connection arguments.table
    match composer.runUntilFailure start arguments.operations with
    | .error failure => failed (some choice) failure.message
    | .ok query => finished choice (documentOutput query)
  else
    let start := composer.sqlQuery connection arguments.table
    match composer.runUntilFailure start arguments.operations with
    | .error failure => failed (some choice) failure.message
    | .ok query =>
      if arguments.check && !query.isAccepted parser then
        failed (some choice) "generated SQL does not parse".toList
      else finished choice (sqlOutput arguments.inline query)

/-- The answer to arguments that were read, given the file of the configuration. -/
def ofArguments (parser : Sql.Parser) (userPath : Option Text) (file : ConfigurationFile)
    (arguments : Arguments) : Report :=
  match configuration arguments.config userPath file with
  | .error message => failed none message
  | .ok configuration => ofComposer parser configuration.composer arguments

/-- The answer to a list of arguments. `userPath` is the path at which the user would have a
configuration, if it is known, and `file` tells what is found at the path that the arguments name,
or at that of the user if they name none. -/
def run (userPath : Option Text) (file : Option Text → ConfigurationFile) (arguments : List Text)
    (parser : Sql.Parser := .acceptor) (help : Text := []) : Report :=
  match Arguments.read arguments with
  | .error ending => ofEnding help ending
  | .ok arguments => ofArguments parser userPath (file arguments.config) arguments

end Report

end KeyPathQuery.CommandLine
