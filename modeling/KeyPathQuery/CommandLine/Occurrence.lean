import KeyPathQuery.Text

/-!
The options of the command line and how a list of arguments spells occurrences of them. An
option takes a fixed number of values, which follow it as arguments of their own; an option with
one value may have it attached, after `=` behind the long name, and after the letter with or
without `=`. An argument that stands for a value starts with no hyphen, unless it is a lone
hyphen. Options that do not name operations occur once.

The arguments are read from left to right. A request for help or for the version is granted when
it is reached, if nothing before it was at fault.

Main statements: `Setting.ofLongName?_longName` and `Setting.ofLetter?_eq_some_iff` say that the
long name and the letter of an option determine it.
-/

set_option autoImplicit false
set_option relaxedAutoImplicit false

namespace KeyPathQuery.CommandLine

/-- An option of the command line. -/
inductive Setting where
  | driver
  | table
  | config
  | select
  | filter
  | whereIn
  | contains
  | present
  | orderBy
  | inline
  | check
  | help
  | version
deriving DecidableEq, Repr

namespace Setting

/-- All options. -/
def all : List Setting :=
  [.driver, .table, .config, .select, .filter, .whereIn, .contains, .present, .orderBy, .inline,
    .check, .help, .version]

/-- The name of an option after two hyphens. -/
def longName : Setting → Text
  | .driver => "driver".toList
  | .table => "table".toList
  | .config => "config".toList
  | .select => "select".toList
  | .filter => "filter".toList
  | .whereIn => "where-in".toList
  | .contains => "contains".toList
  | .present => "exists".toList
  | .orderBy => "order-by".toList
  | .inline => "inline".toList
  | .check => "check".toList
  | .help => "help".toList
  | .version => "version".toList

/-- The letter of an option after one hyphen, if it has one. -/
def letter? : Setting → Option Char
  | .driver => some 'd'
  | .table => some 't'
  | .help => some 'h'
  | .version => some 'V'
  | _ => none

/-- The number of values of an option. -/
def arity : Setting → Nat
  | .driver | .table | .config | .select | .present | .orderBy => 1
  | .whereIn | .contains => 2
  | .filter => 3
  | .inline | .check | .help | .version => 0

/-- Whether an option may occur more than once. -/
def isRepeatable : Setting → Bool
  | .select | .filter | .whereIn | .contains | .present | .orderBy => true
  | _ => false

/-- The option with a long name. -/
def ofLongName? (name : Text) : Option Setting :=
  all.find? (·.longName == name)

/-- The option with a letter. -/
def ofLetter? (letter : Char) : Option Setting :=
  all.find? (·.letter? == some letter)

theorem ofLongName?_longName (setting : Setting) : ofLongName? setting.longName = some setting := by
  cases setting <;> rfl

theorem ofLetter?_eq_some_iff {letter : Char} {setting : Setting} :
    ofLetter? letter = some setting ↔ setting.letter? = some letter := by
  constructor
  · intro hfound
    simpa using List.find?_some hfound
  · intro hletter
    cases setting <;> simp [letter?] at hletter <;> subst hletter <;> decide

end Setting

/-- An option with its values. -/
structure Occurrence where
  setting : Setting
  values : List Text
deriving DecidableEq, Repr

/-- Why a list of arguments does not lead to a query. -/
inductive Ending where
  /-- The arguments are at fault. -/
  | misuse
  /-- Help was asked for. -/
  | help
  /-- The version was asked for. -/
  | version
deriving DecidableEq, Repr

/-- What an argument is by itself. -/
inductive Argument where
  /-- A value. -/
  | value
  /-- Two hyphens, after which no option is read. -/
  | endMark
  /-- An option, with the value that is attached to it. -/
  | option (setting : Setting) (attached : Option Text)
  /-- What looks like an option and is none. -/
  | unknown
deriving DecidableEq, Repr

namespace Argument

/-- What stands behind the letter of an option: an attached value, an equals sign before it
aside. An option without values takes none, and what stands behind it is not looked at. -/
def ofLetters (setting : Setting) (behind : Text) : Argument :=
  if setting.arity = 0 then .option setting none
  else
    match behind with
    | [] => .option setting none
    | '=' :: attached => .option setting (some attached)
    | attached => .option setting (some attached)

/-- What an argument is. -/
def classify (text : Text) : Argument :=
  match text with
  | ['-', '-'] => .endMark
  | '-' :: '-' :: long =>
    let name := long.takeWhile (· != '=')
    match Setting.ofLongName? name with
    | none => .unknown
    | some setting =>
      match long.dropWhile (· != '=') with
      | _ :: attached => .option setting (some attached)
      | [] => .option setting none
  | '-' :: letter :: behind =>
    match Setting.ofLetter? letter with
    | some setting => ofLetters setting behind
    | none => .unknown
  | _ => .value

/-- Whether an argument may stand for a value. -/
def isValue (text : Text) : Bool :=
  classify text == .value

end Argument

namespace Occurrence

/-- The values of an option, attached or from the arguments that follow, and the arguments left
over. -/
def takeValues? (setting : Setting) (attached : Option Text) (arguments : List Text) :
    Option (List Text × List Text) :=
  match attached with
  | some value => if setting.arity = 1 then some ([value], arguments) else none
  | none =>
    let values := arguments.take setting.arity
    if values.length = setting.arity ∧ values.all Argument.isValue then
      some (values, arguments.drop setting.arity)
    else none

/-- Whether an option may occur with these values after the options that were seen before it.
The path of a file is not empty. -/
def isAdmissible (seen : List Setting) (occurrence : Occurrence) : Bool :=
  (occurrence.setting.isRepeatable || !seen.contains occurrence.setting) &&
    !(occurrence.setting == .config && occurrence.values == [[]])

/-- The occurrences that arguments spell after the options that were seen before them. -/
def readFrom (seen : List Setting) (arguments : List Text) : Except Ending (List Occurrence) :=
  match arguments with
  | [] => .ok []
  | argument :: rest =>
    match Argument.classify argument with
    | .value => .error .misuse
    | .unknown => .error .misuse
    | .endMark => if rest.isEmpty then .ok [] else .error .misuse
    | .option setting attached =>
      match takeValues? setting attached rest with
      | none => .error .misuse
      | some (values, after) =>
        if isAdmissible seen ⟨setting, values⟩ then
          match setting with
          | .help => .error .help
          | .version => .error .version
          | _ =>
            if after.length ≤ rest.length then
              match readFrom (setting :: seen) after with
              | .ok occurrences => .ok (⟨setting, values⟩ :: occurrences)
              | .error ending => .error ending
            else .error .misuse
        else .error .misuse
termination_by arguments.length

end Occurrence

end KeyPathQuery.CommandLine
