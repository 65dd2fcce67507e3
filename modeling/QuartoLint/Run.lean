/-
A whole run of the program.

The arguments are read, the configuration is resolved, the files are linted,
and the outcome is what is written and the exit status. Asking for help or
the version succeeds; arguments or a configuration that cannot be used make
the run fail, with nothing written. A run looks at no other paths than those
of the config files it may apply and those of the files to lint.
-/
import QuartoLint.Arguments.Help
import QuartoLint.Batch
import QuartoLint.Config
import QuartoLint.ExitStatus

namespace QuartoLint

/-- What a run finds around it, besides files and arguments. -/
structure Environment where
  directories : ConfigDirectories
  /-- The order in which the tasks of the batch take their steps. -/
  schedule : List Nat
deriving Repr, DecidableEq

/-- What a run comes to. -/
structure Outcome where
  status : ExitStatus
  output : Text
deriving Repr, DecidableEq

namespace Outcome

def failed : Outcome := ⟨.failure, []⟩

/-- The outcome of a run that the arguments end. -/
def ofStop : Arguments.Stop → Outcome
  | .problem _ => failed
  | .help full =>
    ⟨.success, if full then Arguments.fullHelp else Arguments.shortHelp⟩
  | .version => ⟨.success, Arguments.versionText⟩

/-- The outcome of linting the files of a configuration. -/
def ofConfig (files : FileSystem) (schedule : List Nat) (config : Config) :
    Outcome :=
  let reports := lintFiles files schedule config.files
  ⟨.ofReports reports config.exitZero, config.format.render reports⟩

end Outcome

def runWith (files : FileSystem) (environment : Environment)
    (arguments : Arguments) : Outcome :=
  match Config.resolve files environment.directories arguments with
  | .ok config => .ofConfig files environment.schedule config
  | .error _ => .failed

/-- The outcome of a run whose arguments have not been read. -/
def run (files : FileSystem) (environment : Environment)
    (arguments : List Text) : Outcome :=
  match Arguments.parse arguments with
  | .ok arguments => runWith files environment arguments
  | .error stop => .ofStop stop

/-- The paths that a run may look at. -/
def consulted (directories : ConfigDirectories) (arguments : Arguments) :
    List Path :=
  arguments.config.toList ++ directories.candidates ++ arguments.files

/-- The log records of a run whose configuration has been resolved. -/
def runRecords (files : FileSystem) (config : Config) : List Log.Record :=
  config.configPath.toList.map .configLoaded
    ++ config.files.flatMap (lintRecords files)
    ++ [.linted config.files.length]

end QuartoLint
