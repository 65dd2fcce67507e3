/-
The configuration of a run.

At most one config file is applied. A file named in the arguments has to be
a regular file. Otherwise it is the file of the project, if there is one,
and otherwise the file of the user, if there is one. What the arguments
leave open is decided by the applied file, and what both leave open has a
default: text, and an exit status that tells of findings. A file that is
applied and cannot be read, is not TOML or says something else than settings
makes the run fail; no other file takes its place.

Settings are read from any table. Only what is said of a table that holds
none depends on whether it can be represented: if it cannot, the file is
called malformed, and otherwise it is invalid for the problem with its
entries.
-/
import QuartoLint.Arguments
import QuartoLint.Log
import QuartoLint.Settings
import QuartoLint.Toml.Document
import QuartoLint.Toml.Representable

namespace QuartoLint

/-- Why there is no configuration. -/
inductive ConfigError
  /-- The file named in the arguments is not a regular file. -/
  | missing (path : Path)
  | unreadable (path : Path) (cause : ReadFault)
  /-- The file is not TOML, or it holds no settings but a value that cannot be
  represented. -/
  | malformed (path : Path)
  /-- The file does not hold settings. -/
  | invalid (path : Path) (problem : Settings.Problem)
deriving Repr, DecidableEq

namespace ConfigError

def message : ConfigError → Text
  | missing path =>
    "config file ".toList ++ path ++ " does not exist".toList
  | unreadable path cause =>
    "could not read config ".toList ++ path ++ ": ".toList ++ cause.message
  | malformed path => "invalid config ".toList ++ path
  | invalid path problem =>
    "invalid config ".toList ++ path ++ ": ".toList ++ problem.message

/-- What is wrong with a file whose table has the problem. -/
def ofProblem (path : Path) (table : Toml.Table)
    (problem : Settings.Problem) : ConfigError :=
  if table.isRepresentable then .invalid path problem else .malformed path

end ConfigError

/-- The settings in the file that the path leads to. -/
def Settings.load (files : FileSystem) (path : Path) :
    Except ConfigError Settings :=
  match files.readText path with
  | .error cause => .error (.unreadable path cause)
  | .ok text =>
    match Toml.parse? text with
    | none => .error (.malformed path)
    | some table => (Settings.ofTable table).mapError (.ofProblem path table)

/-- Where config files are looked for. -/
structure ConfigDirectories where
  project : Path
  user : Option Path
deriving Repr, DecidableEq

namespace ConfigDirectories

def projectFile (directories : ConfigDirectories) : Path :=
  directories.project.join ".qmdlint.toml".toList

/-- The config file of the user, if the user has a directory for it. -/
def userFile? (directories : ConfigDirectories) : Option Path :=
  directories.user.map fun directory =>
    Path.join directory "config.toml".toList

/-- The paths that are looked at when no file is named, best one first. -/
def candidates (directories : ConfigDirectories) : List Path :=
  directories.projectFile :: directories.userFile?.toList

end ConfigDirectories

structure Config where
  files : List Path
  format : OutputFormat
  exitZero : Bool
  logLevel : Text
  /-- The file that was applied. -/
  configPath : Option Path
deriving Repr, DecidableEq

namespace Config

/-- The config file that is applied, if any. -/
def appliedFile (files : FileSystem) (directories : ConfigDirectories)
    (arguments : Arguments) : Except ConfigError (Option Path) :=
  match arguments.config with
  | some path => if files.isFile path then .ok (some path) else .error (.missing path)
  | none => .ok (directories.candidates.find? files.isFile)

/-- The settings in the config file, if one is applied. -/
def fileSettings (files : FileSystem) : Option Path → Except ConfigError Settings
  | some path => Settings.load files path
  | none => .ok .empty

/-- The configuration of the arguments and of what a config file says. -/
def combine (arguments : Arguments) (configPath : Option Path)
    (settings : Settings) : Config where
  files := arguments.files
  format := (arguments.format.or settings.format).getD .text
  exitZero := arguments.exitZero || settings.exitZero.getD false
  logLevel := arguments.logLevel
  configPath := configPath

/-- The configuration of a run with these arguments. -/
def resolve (files : FileSystem) (directories : ConfigDirectories)
    (arguments : Arguments) : Except ConfigError Config := do
  let configPath ← appliedFile files directories arguments
  let settings ← fileSettings files configPath
  return combine arguments configPath settings

def records (config : Config) : List Log.Record :=
  config.configPath.toList.map .usingConfig

end Config

end QuartoLint
