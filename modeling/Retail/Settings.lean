import Retail.Instant.Reader

/-!
# Settings

What to reconcile, at which time, and how much to log, as given by command-line arguments. Every
option takes a value, which follows it as the next argument, behind an equals sign or, for the short
form, directly. A value is examined when the next option or the end of the arguments is reached.

## Main definitions

* `Settings`: the settings
* `UsageError`: why arguments are refused
* `Settings.ofArguments`: the reader
-/

namespace Retail

/-- The forms in which a log may be written. -/
inductive LogFormat where
  | compact
  | json
  deriving DecidableEq, Repr

/-- The name of a form as it is given as an argument. -/
def LogFormat.label : LogFormat → String
  | .compact => "compact"
  | .json => "json"

/-- What can be set, with what holds where nothing is said. -/
structure Settings where
  fixturesDir : String := "./fixtures"
  set : String := "default"
  now : Option Instant := none
  logLevel : String := "info"
  logFormat : LogFormat := .compact

/-- Why arguments are refused; a wish for help is not carried out either. -/
inductive UsageError where
  | invalidValue
  | valueValidation
  | unknownArgument
  | argumentConflict
  | tooManyValues
  | displayHelp
  deriving DecidableEq, Repr

namespace Settings

/-- The options, each of which takes a value. -/
inductive Setting where
  | fixturesDir | set | now | logLevel | logFormat
  deriving DecidableEq, Repr

/-- What an argument names: an option or the wish for help. -/
inductive Flag where
  | option (option : Setting)
  | help
  deriving DecidableEq, Repr

/-- What a name behind two hyphens stands for. -/
def longFlag? : String → Option Flag
  | "fixtures-dir" => some (.option .fixturesDir)
  | "set" => some (.option .set)
  | "now" => some (.option .now)
  | "log-level" => some (.option .logLevel)
  | "log-format" => some (.option .logFormat)
  | "help" => some .help
  | _ => none

/-- What a letter behind one hyphen stands for. -/
def shortFlag? : Char → Option Flag
  | 's' => some (.option .set)
  | 'l' => some (.option .logLevel)
  | 'h' => some .help
  | _ => none

/-- The settings read so far, the options that were given, and the option whose value has not been
examined yet. -/
structure Progress where
  settings : Settings := {}
  given : List Setting := []
  pending : Option (Setting × Option String) := none

/-- The settings with the value of an option. -/
def assign (settings : Settings) (value : String) : Setting → Except UsageError Settings
  | .fixturesDir =>
    if value.isEmpty then .error .invalidValue else .ok { settings with fixturesDir := value }
  | .set => .ok { settings with set := value }
  | .now =>
    match Instant.ofText? value with
    | some now => .ok { settings with now }
    | none => .error .valueValidation
  | .logLevel => .ok { settings with logLevel := value }
  | .logFormat =>
    match [LogFormat.compact, .json].find? (·.label == value) with
    | some logFormat => .ok { settings with logFormat }
    | none => .error .invalidValue

namespace Progress

/-- Examines the value of an option; each option may be given once. -/
def accept (p : Progress) (option : Setting) : Option String → Except UsageError Progress
  | none => .error .invalidValue
  | some value =>
    if p.given.contains option then .error .argumentConflict
    else do
      return { p with settings := ← assign p.settings value option, given := option :: p.given }

/-- Examines the value that has not been examined yet. -/
def settle (p : Progress) : Except UsageError Progress :=
  match p.pending with
  | none => .ok p
  | some (option, value) => { p with pending := none }.accept option value

/-- Reads an option and the value attached to it, if there is one. -/
def take (p : Progress) (flag : Flag) (attached : Option String) : Except UsageError Progress := do
  let p ← p.settle
  match flag, attached with
  | .help, _ => .error .displayHelp
  | .option option, some value => p.accept option (some value)
  | .option option, none => return { p with pending := some (option, none) }

/-- Reads a word that names no option: the value of the option before it. -/
def word (p : Progress) (text : String) : Except UsageError Progress :=
  match p.pending with
  | some (option, none) => .ok { p with pending := some (option, some text) }
  | _ => .error .unknownArgument

/-- Reads one argument before any `--`. -/
def argument (p : Progress) (text : String) : Except UsageError Progress :=
  match text.toList with
  | '-' :: '-' :: name =>
    let attached := match name.dropWhile (· != '=') with
      | [] => none
      | _ :: value => some (String.ofList value)
    match longFlag? (String.ofList (name.takeWhile (· != '='))), attached with
    | some .help, some _ => .error .tooManyValues
    | some flag, attached => p.take flag attached
    | none, _ => .error .unknownArgument
  | '-' :: letter :: value =>
    let attached := match value with
      | [] => none
      | '=' :: value => some (String.ofList value)
      | value => some (String.ofList value)
    match shortFlag? letter with
    | some flag => p.take flag attached
    | none => .error .unknownArgument
  | _ => p.word text

/-- Reads the arguments; behind `--` none is allowed. -/
def arguments (p : Progress) : List String → Except UsageError Progress
  | [] => p.settle
  | "--" :: rest => if rest.isEmpty then p.settle else .error .unknownArgument
  | text :: rest => do (← p.argument text).arguments rest

end Progress

/-- The settings given by command-line arguments. -/
def ofArguments (arguments : List String) : Except UsageError Settings := do
  return (← ({} : Progress).arguments arguments).settings

end Settings

end Retail
