/-
The arguments of a run.

Arguments are read from left to right. An option takes a value, which is
attached to its name behind an equals sign or stands in the argument behind
it; a flag takes none. Any other argument is a file, also a lone dash, and
behind two dashes everything is. No option and no flag may be given twice.

Values that stand in arguments of their own, and files, are looked at late:
when the next option or flag is met, when a file follows an option's value,
or at the end. So a name that does not exist, or a flag with a value, is
reported before a bad value in front of it.
-/
import QuartoLint.FileSystem
import QuartoLint.Output

namespace QuartoLint

/-- What the arguments of a run ask for. -/
structure Arguments where
  files : List Path
  format : Option OutputFormat
  config : Option Path
  exitZero : Bool
  logLevel : Text
deriving Repr, DecidableEq

namespace Arguments

-- ================================================================= names

/-- The options that take a value. -/
inductive ValueOption
  | format
  | config
  | logLevel
deriving Repr, DecidableEq

/-- The options that take none. -/
inductive Flag
  | exitZero
  | help
  | version
deriving Repr, DecidableEq

/-- What the name behind two dashes means. -/
inductive LongName
  | option (name : ValueOption)
  | flag (name : Flag)
deriving Repr, DecidableEq

/-- The names that may stand behind two dashes. -/
def longNames : List (Text × LongName) :=
  [("format".toList, .option .format),
    ("config".toList, .option .config),
    ("exit-zero".toList, .flag .exitZero),
    ("log-level".toList, .option .logLevel),
    ("help".toList, .flag .help),
    ("version".toList, .flag .version)]

-- ================================================================== ends

/-- What can be wrong with the arguments. -/
inductive Problem
  | unknownArgument
  /-- A value that is missing or not allowed. -/
  | invalidValue
  | givenTwice
  | unexpectedValue
deriving Repr, DecidableEq

namespace Problem

def message : Problem → Text
  | unknownArgument => "unexpected argument".toList
  | invalidValue => "invalid or missing value".toList
  | givenTwice => "an argument cannot be used several times".toList
  | unexpectedValue => "unexpected value for a flag".toList

end Problem

/-- Why the arguments lead to no run of the linter. -/
inductive Stop
  | problem (problem : Problem)
  /-- Help is asked for, in full or in short. -/
  | help (full : Bool)
  | version
deriving Repr, DecidableEq

-- ============================================================== progress

/-- What has been read but not yet looked at. -/
inductive Pending
  | nothing
  /-- An option, and its value if that has been met. -/
  | option (name : ValueOption) (value : Option Text)
  | files (paths : List Path)
deriving Repr, DecidableEq

/-- What the arguments read so far come to. -/
structure Progress where
  files : List Path
  format : Option OutputFormat
  config : Option Path
  exitZero : Bool
  logLevel : Option Text
  pending : Pending
  /-- Whether everything that follows is a file. -/
  filesOnly : Bool
deriving Repr, DecidableEq

/-- The level of the log unless another is asked for. -/
def defaultLogLevel : Text := "warn".toList

namespace Progress

def start : Progress := ⟨[], none, none, false, none, .nothing, false⟩

/-- Sets an option, which must not have been set, to a value that it
allows. A format has to exist and a path must not be empty. -/
def setOption (progress : Progress) (value : Text) :
    ValueOption → Except Problem Progress
  | .format =>
    if progress.format.isSome then .error .givenTwice
    else
      match OutputFormat.ofName? value with
      | some format => .ok { progress with format := some format }
      | none => .error .invalidValue
  | .config =>
    if progress.config.isSome then .error .givenTwice
    else if value.isEmpty then .error .invalidValue
    else .ok { progress with config := some value }
  | .logLevel =>
    if progress.logLevel.isSome then .error .givenTwice
    else .ok { progress with logLevel := some value }

/-- Looks at what is pending. -/
def settle (progress : Progress) : Except Problem Progress :=
  let settled := { progress with pending := .nothing }
  match progress.pending with
  | .nothing => .ok settled
  | .option _ none => .error .invalidValue
  | .option name (some value) => settled.setOption value name
  | .files paths =>
    if paths.any List.isEmpty then .error .invalidValue
    else .ok { settled with files := progress.files ++ paths }

/-- Sets a flag, which must not have been set; help and the version end the
reading. -/
def setFlag (progress : Progress) : Flag → Except Stop Progress
  | .exitZero =>
    if progress.exitZero then .error (.problem .givenTwice)
    else .ok { progress with exitZero := true }
  | .help => .error (.help true)
  | .version => .error .version

/-- An outcome in which a problem is a reason to stop. -/
def orStop {α : Type} (result : Except Problem α) : Except Stop α :=
  result.mapError .problem

/-- Reads what stands behind two dashes. -/
def takeLong (progress : Progress) (text : Text) : Except Stop Progress :=
  let name := text.takeWhile (· != '=')
  let attached := text.dropWhile (· != '=')
  match longNames.lookup name, attached with
  | none, _ => .error (.problem .unknownArgument)
  | some (.flag _), _ :: _ => .error (.problem .unexpectedValue)
  | some (.flag flag), [] => do
    (← orStop progress.settle).setFlag flag
  | some (.option option), _ :: value => orStop do
    (← progress.settle).setOption value option
  | some (.option option), [] => orStop do
    return { ← progress.settle with pending := .option option none }

/-- Reads the letter behind one dash; letters behind it are not looked at. -/
def takeShort (progress : Progress) : (letter : Char) → Except Stop Progress
  | 'h' => orStop progress.settle >>= fun _ => .error (.help false)
  | 'V' => orStop progress.settle >>= fun _ => .error .version
  | _ => .error (.problem .unknownArgument)

/-- Reads an argument that is a file, or the value of an option that waits
for one. -/
def takePlain (progress : Progress) (text : Text) : Except Stop Progress :=
  match progress.pending with
  | .option name none =>
    .ok { progress with pending := .option name (some text) }
  | .files paths => .ok { progress with pending := .files (paths ++ [text]) }
  | _ => orStop do
    return { ← progress.settle with pending := .files [text] }

/-- Reads the two dashes behind which everything is a file. An option that
waits for a value waits in vain. -/
def takeDashes (progress : Progress) : Except Stop Progress :=
  match progress.pending with
  | .option _ none => .error (.problem .invalidValue)
  | _ => .ok { progress with filesOnly := true }

def take (progress : Progress) (text : Text) : Except Stop Progress :=
  if progress.filesOnly then progress.takePlain text
  else
    match text with
    | ['-', '-'] => progress.takeDashes
    | '-' :: '-' :: long => progress.takeLong long
    | '-' :: letter :: _ => progress.takeShort letter
    | _ => progress.takePlain text

/-- What the arguments ask for when all have been read and looked at. -/
def finish (progress : Progress) : Except Stop Arguments := orStop do
  let settled ← progress.settle
  return ⟨settled.files, settled.format, settled.config, settled.exitZero,
    settled.logLevel.getD defaultLogLevel⟩

end Progress

/-- What the arguments ask for, or why they lead to no run. -/
def parse (arguments : List Text) : Except Stop Arguments := do
  (← arguments.foldlM Progress.take .start).finish

end Arguments

end QuartoLint
