/-
The one config file that decides.

A run has up to three config files to choose from, and applies one of them or
none: the file named in the arguments, or else the file of the project if it
is there, or else the file of the user if it is there (`Config.Applies`). The
former is called `.qmdlint.toml` and lies in the directory of the project, the
latter is called `config.toml` and lies in that of the user. A
file is there when its path leads to a regular file. What the run is
configured to do is settled by the arguments and the applied file together,
and an applied file that cannot be used is an error, of one of three kinds
(`Config.Resolves`).

# Two file systems

Which file is applied is found out from the best candidate downwards, and the
search ends at the applied file. So two file systems in which the candidates
down to that file are there or not alike, and in which that file reads alike,
lead to the same configuration or the same error
(`Config.AgreeDownToApplied.resolve_eq`). Whatever else they hold makes no
difference: not what is in the file of a user whose project has one, and
nothing in either beside a file named in the arguments.
-/
import QuartoLint.Config

namespace QuartoLint

namespace Settings

-- ====================================================== one config file

/-- What the file at a path says, or why it cannot be used. -/
inductive Loads (files : FileSystem) (path : Path) :
    Except ConfigError Settings → Prop
  | unreadable {cause : ReadFault}
      (hread : files.readText path = .error cause) :
      Loads files path (.error (.unreadable path cause))
  | malformed {text : Text} (hread : files.readText path = .ok text)
      (htoml : Toml.parse? text = none) :
      Loads files path (.error (.malformed path))
  /-- The table has a problem, but it cannot be represented either. -/
  | unrepresentable {text : Text} {table : Toml.Table} {problem : Problem}
      (hread : files.readText path = .ok text)
      (htoml : Toml.parse? text = some table)
      (hsettings : ofTable table = .error problem)
      (htable : table.isRepresentable = false) :
      Loads files path (.error (.malformed path))
  | invalid {text : Text} {table : Toml.Table} {problem : Problem}
      (hread : files.readText path = .ok text)
      (htoml : Toml.parse? text = some table)
      (hsettings : ofTable table = .error problem)
      (htable : table.isRepresentable = true) :
      Loads files path (.error (.invalid path problem))
  | settings {text : Text} {table : Toml.Table} {settings : Settings}
      (hread : files.readText path = .ok text)
      (htoml : Toml.parse? text = some table)
      (hsettings : ofTable table = .ok settings) :
      Loads files path (.ok settings)

variable {files : FileSystem} {path : Path}
  {result : Except ConfigError Settings}

/-- A table without settings is told by its problem. -/
theorem load_of_ofTable_eq_error {text : Text} {table : Toml.Table}
    {problem : Problem} (hread : files.readText path = .ok text)
    (htoml : Toml.parse? text = some table)
    (hsettings : ofTable table = .error problem) :
    load files path = .error (.ofProblem path table problem) := by
  simp only [load, hread, htoml, hsettings]
  rfl

theorem Loads.eq_load (hloads : Loads files path result) :
    result = load files path := by
  cases hloads with
  | unreadable hread => simp only [load, hread]
  | malformed hread htoml => simp only [load, hread, htoml]
  | unrepresentable hread htoml hsettings htable =>
      rw [load_of_ofTable_eq_error hread htoml hsettings,
        ConfigError.ofProblem, htable]
      rfl
  | invalid hread htoml hsettings htable =>
      rw [load_of_ofTable_eq_error hread htoml hsettings,
        ConfigError.ofProblem, htable]
      rfl
  | settings hread htoml hsettings =>
      simp only [load, hread, htoml, hsettings]
      rfl

/-- Every file says something or cannot be used. -/
theorem exists_loads (files : FileSystem) (path : Path) :
    ∃ result, Loads files path result := by
  cases hread : files.readText path with
  | error cause => exact ⟨_, .unreadable hread⟩
  | ok text =>
      cases htoml : Toml.parse? text with
      | none => exact ⟨_, .malformed hread htoml⟩
      | some table =>
          cases hsettings : ofTable table with
          | error problem =>
              cases htable : table.isRepresentable with
              | false =>
                  exact ⟨_, .unrepresentable hread htoml hsettings htable⟩
              | true => exact ⟨_, .invalid hread htoml hsettings htable⟩
          | ok settings => exact ⟨_, .settings hread htoml hsettings⟩

end Settings

namespace Config

-- ======================================================= the applied file

/-- Which config file is applied: the one named in the arguments, or without
one the best candidate that is there. -/
inductive Applies (files : FileSystem) (directories : ConfigDirectories)
    (arguments : Arguments) : Option Path → Prop
  | named {path : Path} (hnamed : arguments.config = some path)
      (hfile : files.isFile path = true) :
      Applies files directories arguments (some path)
  | project (hunnamed : arguments.config = none)
      (hfile : files.isFile
        (directories.project.join ".qmdlint.toml".toList) = true) :
      Applies files directories arguments
        (some (directories.project.join ".qmdlint.toml".toList))
  | user {directory : Path} (hunnamed : arguments.config = none)
      (hproject : files.isFile
        (directories.project.join ".qmdlint.toml".toList) = false)
      (huser : directories.user = some directory)
      (hfile : files.isFile (directory.join "config.toml".toList) = true) :
      Applies files directories arguments
        (some (directory.join "config.toml".toList))
  | nothing (hunnamed : arguments.config = none)
      (hproject : files.isFile
        (directories.project.join ".qmdlint.toml".toList) = false)
      (huser : ∀ directory : Path, directories.user = some directory →
        files.isFile (directory.join "config.toml".toList) = false) :
      Applies files directories arguments none

variable {files other : FileSystem} {directories : ConfigDirectories}
  {arguments : Arguments}

theorem appliedFile_of_unnamed (hunnamed : arguments.config = none) :
    appliedFile files directories arguments
      = .ok (directories.candidates.find? files.isFile) := by
  unfold appliedFile
  rw [hunnamed]

/-- The file of the project comes first. -/
theorem find?_candidates_of_project
    (hfile : files.isFile
      (directories.project.join ".qmdlint.toml".toList) = true) :
    directories.candidates.find? files.isFile
      = some (directories.project.join ".qmdlint.toml".toList) :=
  List.find?_cons_of_pos hfile

/-- Without a file of the project there is only that of the user. -/
theorem find?_candidates_of_not_project
    (hproject : files.isFile
      (directories.project.join ".qmdlint.toml".toList) = false) :
    directories.candidates.find? files.isFile
      = directories.userFile?.toList.find? files.isFile :=
  List.find?_cons_of_neg (Bool.eq_false_iff.1 hproject)

/-- The file that is applied is the one that is found. -/
theorem appliedFile_of_applies {applied : Option Path}
    (happlied : Applies files directories arguments applied) :
    appliedFile files directories arguments = .ok applied := by
  cases happlied with
  | named hnamed hfile =>
      unfold appliedFile
      rw [hnamed]
      exact if_pos hfile
  | project hunnamed hfile =>
      rw [appliedFile_of_unnamed hunnamed, find?_candidates_of_project hfile]
  | user hunnamed hproject huser hfile =>
      rw [appliedFile_of_unnamed hunnamed,
        find?_candidates_of_not_project hproject, ConfigDirectories.userFile?,
        huser, Option.map_some, Option.toList_some,
        List.find?_cons_of_pos hfile]
  | nothing hunnamed hproject huser =>
      rw [appliedFile_of_unnamed hunnamed,
        find?_candidates_of_not_project hproject]
      refine congrArg Except.ok (List.find?_eq_none.2 fun path hpath => ?_)
      obtain ⟨directory, hdirectory, rfl⟩ :=
        Option.map_eq_some_iff.1 (Option.mem_toList.1 hpath)
      rw [huser directory hdirectory]
      exact Bool.false_ne_true

/-- Either a file is named that is not there, or it is known what is
applied. -/
theorem missing_or_applies (files : FileSystem)
    (directories : ConfigDirectories) (arguments : Arguments) :
    (∃ path, arguments.config = some path ∧ files.isFile path = false)
      ∨ ∃ applied, Applies files directories arguments applied := by
  cases hconfig : arguments.config with
  | some path =>
      cases hfile : files.isFile path with
      | false => exact .inl ⟨path, rfl, hfile⟩
      | true => exact .inr ⟨some path, .named hconfig hfile⟩
  | none =>
      right
      cases hproject : files.isFile
          (directories.project.join ".qmdlint.toml".toList) with
      | true => exact ⟨_, .project hconfig hproject⟩
      | false =>
          by_cases hfound : ∃ directory : Path,
              directories.user = some directory
                ∧ files.isFile (directory.join "config.toml".toList) = true
          · obtain ⟨directory, huser, hfile⟩ := hfound
            exact ⟨_, .user hconfig hproject huser hfile⟩
          · refine ⟨none, .nothing hconfig hproject fun directory huser => ?_⟩
            exact Bool.eq_false_iff.2
              fun hfile => hfound ⟨directory, huser, hfile⟩

-- ====================================================== the configuration

/-- What the arguments and a file with these settings settle together. -/
structure Settles (arguments : Arguments) (applied : Option Path)
    (settings : Settings) (config : Config) : Prop where
  files : config.files = arguments.files
  format_of_arguments : ∀ format ∈ arguments.format, config.format = format
  format_of_settings : arguments.format = none →
    ∀ format ∈ settings.format, config.format = format
  format_default : arguments.format = none → settings.format = none →
    config.format = .text
  exitZero : config.exitZero = true
    ↔ arguments.exitZero = true ∨ settings.exitZero = some true
  logLevel : config.logLevel = arguments.logLevel
  configPath : config.configPath = applied

theorem Settles.format_eq {applied : Option Path} {settings : Settings}
    {config : Config} (hsettles : Settles arguments applied settings config) :
    config.format = (arguments.format.or settings.format).getD .text := by
  cases hargument : arguments.format with
  | some format => exact hsettles.format_of_arguments format hargument
  | none =>
      cases hsetting : settings.format with
      | some format =>
          exact hsettles.format_of_settings hargument format hsetting
      | none => exact hsettles.format_default hargument hsetting

theorem exitZero_or_eq_true_iff {settings : Settings} :
    (arguments.exitZero || settings.exitZero.getD false) = true
      ↔ arguments.exitZero = true ∨ settings.exitZero = some true := by
  rw [Bool.or_eq_true]
  cases settings.exitZero <;> simp

/-- The combination of arguments and settings is settled by them. -/
theorem settles_combine (applied : Option Path) (settings : Settings) :
    Settles arguments applied settings
      (combine arguments applied settings) := by
  unfold combine
  constructor
  case files => rfl
  case logLevel => rfl
  case configPath => rfl
  case exitZero => exact exitZero_or_eq_true_iff
  case format_of_arguments =>
    intro format hformat
    rw [Option.mem_def.1 hformat]
    rfl
  case format_of_settings =>
    intro hargument format hformat
    rw [hargument, Option.mem_def.1 hformat]
    rfl
  case format_default =>
    intro hargument hsetting
    rw [hargument, hsetting]
    rfl

/-- What arguments and settings settle is their combination, and nothing
else. -/
theorem settles_iff {applied : Option Path} {settings : Settings}
    {config : Config} :
    Settles arguments applied settings config
      ↔ config = combine arguments applied settings := by
  constructor
  · intro hsettles
    have hexitZero : config.exitZero
        = (arguments.exitZero || settings.exitZero.getD false) := by
      rw [Bool.eq_iff_iff, hsettles.exitZero, exitZero_or_eq_true_iff]
    -- field by field
    obtain ⟨configFiles, format, exitZero, logLevel, configPath⟩ := config
    unfold combine
    rw [← hsettles.format_eq, ← hexitZero, ← hsettles.files,
      ← hsettles.logLevel, ← hsettles.configPath]
  · rintro rfl
    exact settles_combine applied settings

/-- What a run is configured to do, or why it cannot be configured. -/
inductive Resolves (files : FileSystem) (directories : ConfigDirectories)
    (arguments : Arguments) : Except ConfigError Config → Prop
  | missing {path : Path} (hnamed : arguments.config = some path)
      (hfile : files.isFile path = false) :
      Resolves files directories arguments (.error (.missing path))
  | unusable {path : Path} {error : ConfigError}
      (happlied : Applies files directories arguments (some path))
      (hloads : Settings.Loads files path (.error error)) :
      Resolves files directories arguments (.error error)
  | applied {path : Path} {settings : Settings} {config : Config}
      (happlied : Applies files directories arguments (some path))
      (hloads : Settings.Loads files path (.ok settings))
      (hconfig : Settles arguments (some path) settings config) :
      Resolves files directories arguments (.ok config)
  | unapplied {config : Config}
      (happlied : Applies files directories arguments none)
      (hconfig : Settles arguments none .empty config) :
      Resolves files directories arguments (.ok config)

/-- A named file that is not there is all that is looked at. -/
theorem resolve_of_missing {path : Path}
    (hnamed : arguments.config = some path)
    (hfile : files.isFile path = false) :
    resolve files directories arguments = .error (.missing path) := by
  have happlied : appliedFile files directories arguments
      = .error (.missing path) := by
    unfold appliedFile
    rw [hnamed]
    exact if_neg (by rw [hfile]; exact Bool.false_ne_true)
  unfold resolve
  rw [happlied]
  rfl

/-- The arguments add to what the applied file says, and mend nothing in
it. -/
theorem resolve_of_applies {applied : Option Path}
    (happlied : Applies files directories arguments applied) :
    resolve files directories arguments
      = (fileSettings files applied).map (combine arguments applied) := by
  unfold resolve
  rw [appliedFile_of_applies happlied]
  show (fileSettings files applied >>= fun settings =>
    pure (combine arguments applied settings)) = _
  cases fileSettings files applied <;> rfl

/-- There is one result at most, the one that is resolved. -/
theorem Resolves.eq_resolve {result : Except ConfigError Config}
    (hresolves : Resolves files directories arguments result) :
    result = resolve files directories arguments := by
  cases hresolves with
  | missing hnamed hfile => rw [resolve_of_missing hnamed hfile]
  | unusable happlied hloads =>
      rw [resolve_of_applies happlied, fileSettings, ← hloads.eq_load]
      rfl
  | applied happlied hloads hconfig =>
      rw [resolve_of_applies happlied, fileSettings, ← hloads.eq_load,
        settles_iff.1 hconfig]
      rfl
  | unapplied happlied hconfig =>
      rw [resolve_of_applies happlied, settles_iff.1 hconfig]
      rfl

/-- There is always a result. -/
theorem exists_resolves (files : FileSystem) (directories : ConfigDirectories)
    (arguments : Arguments) :
    ∃ result, Resolves files directories arguments result := by
  rcases missing_or_applies files directories arguments with
    ⟨path, hnamed, hfile⟩ | ⟨applied, happlied⟩
  · exact ⟨_, .missing hnamed hfile⟩
  · cases applied with
    | none => exact ⟨_, .unapplied happlied (settles_combine none .empty)⟩
    | some path =>
        obtain ⟨result, hloads⟩ := Settings.exists_loads files path
        cases result with
        | error error => exact ⟨_, .unusable happlied hloads⟩
        | ok settings =>
            exact ⟨_, .applied happlied hloads (settles_combine _ settings)⟩

theorem resolves_iff {result : Except ConfigError Config} :
    Resolves files directories arguments result
      ↔ result = resolve files directories arguments := by
  constructor
  · exact Resolves.eq_resolve
  · intro hresult
    obtain ⟨found, hresolves⟩ := exists_resolves files directories arguments
    rw [hresult, ← hresolves.eq_resolve]
    exact hresolves

/-- The files to lint are those named in the arguments. -/
theorem files_of_resolve {config : Config}
    (hconfig : resolve files directories arguments = .ok config) :
    config.files = arguments.files := by
  cases resolves_iff.2 hconfig.symm with
  | applied happlied hloads hsettles => exact hsettles.files
  | unapplied happlied hsettles => exact hsettles.files

-- ======================================================= two file systems

/-- What is the same in two file systems: whether the candidates are there,
from the best one down to the applied one, and what is read from the applied
one. -/
structure AgreeDownToApplied (files other : FileSystem)
    (directories : ConfigDirectories) (arguments : Arguments) : Prop where
  named : ∀ path ∈ arguments.config,
    files.isFile path = other.isFile path
  project : arguments.config = none →
    files.isFile (directories.project.join ".qmdlint.toml".toList)
      = other.isFile (directories.project.join ".qmdlint.toml".toList)
  user : arguments.config = none →
    files.isFile (directories.project.join ".qmdlint.toml".toList) = false →
    ∀ directory : Path, directories.user = some directory →
      files.isFile (directory.join "config.toml".toList)
        = other.isFile (directory.join "config.toml".toList)
  content : ∀ path, Applies files directories arguments (some path) →
    files.read path = other.read path

/-- The same file is applied in both. -/
theorem AgreeDownToApplied.applies
    (hagree : AgreeDownToApplied files other directories arguments)
    {applied : Option Path}
    (happlied : Applies files directories arguments applied) :
    Applies other directories arguments applied := by
  cases happlied with
  | named hnamed hfile =>
      rw [hagree.named _ hnamed] at hfile
      exact .named hnamed hfile
  | project hunnamed hfile =>
      rw [hagree.project hunnamed] at hfile
      exact .project hunnamed hfile
  | user hunnamed hproject huser hfile =>
      rw [hagree.user hunnamed hproject _ huser] at hfile
      rw [hagree.project hunnamed] at hproject
      exact .user hunnamed hproject huser hfile
  | nothing hunnamed hproject huser =>
      -- the user is only asked after the project, so the order matters here
      have hother := hproject
      rw [hagree.project hunnamed] at hother
      refine .nothing hunnamed hother fun directory hdirectory => ?_
      rw [← hagree.user hunnamed hproject directory hdirectory]
      exact huser directory hdirectory

/-- The applied file says the same in both. -/
theorem AgreeDownToApplied.fileSettings_eq
    (hagree : AgreeDownToApplied files other directories arguments)
    {applied : Option Path}
    (happlied : Applies files directories arguments applied) :
    fileSettings files applied = fileSettings other applied := by
  cases applied with
  | none => rfl
  | some path =>
      have hread : files.readText path = other.readText path := by
        unfold FileSystem.readText
        rw [hagree.content path happlied]
      show Settings.load files path = Settings.load other path
      unfold Settings.load
      rw [hread]

/-- Both lead to the same configuration or the same error. -/
theorem AgreeDownToApplied.resolve_eq
    (hagree : AgreeDownToApplied files other directories arguments) :
    resolve files directories arguments
      = resolve other directories arguments := by
  rcases missing_or_applies files directories arguments with
    ⟨path, hnamed, hfile⟩ | ⟨applied, happlied⟩
  · rw [resolve_of_missing hnamed hfile]
    rw [hagree.named path hnamed] at hfile
    rw [resolve_of_missing hnamed hfile]
  · rw [resolve_of_applies happlied,
      resolve_of_applies (hagree.applies happlied),
      hagree.fileSettings_eq happlied]

-- =================================================== other arguments

/-- The named file alone decides between the arguments which file is
applied. -/
theorem Applies.of_config_eq {again : Arguments}
    (hconfig : again.config = arguments.config) {applied : Option Path}
    (happlied : Applies files directories arguments applied) :
    Applies files directories again applied := by
  cases happlied with
  | named hnamed hfile => exact .named (hconfig.trans hnamed) hfile
  | project hunnamed hfile => exact .project (hconfig.trans hunnamed) hfile
  | user hunnamed hproject huser hfile =>
      exact .user (hconfig.trans hunnamed) hproject huser hfile
  | nothing hunnamed hproject huser =>
      exact .nothing (hconfig.trans hunnamed) hproject huser

/-- An error does not depend on what else the arguments ask for. -/
theorem Resolves.error_of_config_eq {again : Arguments} {error : ConfigError}
    (hconfig : again.config = arguments.config)
    (hresolves : Resolves files directories arguments (.error error)) :
    Resolves files directories again (.error error) := by
  -- what else the arguments ask for is looked at only without an error
  cases hresolves with
  | missing hnamed hfile => exact .missing (hconfig.trans hnamed) hfile
  | unusable happlied hloads =>
      exact .unusable (happlied.of_config_eq hconfig) hloads

-- ================================================================ the rule

/-- A run is configured by its arguments and one config file at most, in
exactly one way or with exactly one error: the file named in the arguments,
which has to be there, or else that of the project, or else that of the user.
Two file systems that agree down to the applied file, and on what is read from
it, give the same configuration or the same error. An error stays whatever
else the arguments ask for, so long as they name the same file. -/
theorem resolve_by_applied (files other : FileSystem)
    (directories : ConfigDirectories) (arguments again : Arguments) :
    (∀ result, Resolves files directories arguments result
        ↔ result = resolve files directories arguments)
      ∧ (AgreeDownToApplied files other directories arguments →
          resolve files directories arguments
            = resolve other directories arguments)
      ∧ (again.config = arguments.config →
          ∀ error, resolve files directories arguments = .error error →
            resolve files directories again = .error error) := by
  refine ⟨fun _ => resolves_iff, AgreeDownToApplied.resolve_eq, ?_⟩
  intro hconfig error herror
  have hresolves := resolves_iff.2 herror.symm
  exact (resolves_iff.1 (hresolves.error_of_config_eq hconfig)).symm

/-- The file of a project that cannot be read is an error, with and without a
usable file of the user and whatever the arguments ask for. Without a file of
the project, that of the user is an error if it cannot be read. -/
theorem resolve_by_applied_unreadable :
    let fault : ReadFault := .other "Permission denied (os error 13)".toList
    let directories : ConfigDirectories := ⟨['p'], some ['u']⟩
    let project : Path := "p/.qmdlint.toml".toList
    let user : Path := "u/config.toml".toList
    let read : Path → Except ReadFault ByteArray := fun path =>
      if path = project then .error fault else .ok .empty
    let files : FileSystem := ⟨fun _ => true, read⟩
    let other : FileSystem := ⟨fun path => path == project, fun path =>
      if path = project then .error fault else .error .notFound⟩
    let unprojected : FileSystem :=
      ⟨fun path => path == user, fun _ => .error fault⟩
    let arguments : Arguments := ⟨[], none, none, false, []⟩
    let again : Arguments := ⟨[], some .json, none, true, []⟩
    resolve files directories arguments = .error (.unreadable project fault)
      ∧ resolve other directories arguments
        = resolve files directories arguments
      ∧ resolve files directories again
        = .error (.unreadable project fault)
      ∧ resolve unprojected directories arguments
        = .error (.unreadable user fault) := by
  intro fault directories project user read files other unprojected
    arguments again
  have herror : resolve files directories arguments
      = .error (.unreadable project fault) := rfl
  have hagree : AgreeDownToApplied files other directories arguments := by
    constructor
    case named => exact fun path hnamed => by cases hnamed
    case project => exact fun _ => rfl
    case user => exact fun _ hproject => by cases hproject
    case content =>
      intro path happlied
      have hpath : path = project := by
        have hfound := appliedFile_of_applies happlied
        injection hfound with hfound
        injection hfound with hfound
        exact hfound.symm
      rw [hpath]
      rfl
  obtain ⟨-, hsame, hmasked⟩ :=
    resolve_by_applied files other directories arguments again
  obtain ⟨hrule, -, -⟩ :=
    resolve_by_applied unprojected other directories arguments again
  have huser : Resolves unprojected directories arguments
      (.error (.unreadable user fault)) :=
    .unusable (.user rfl rfl rfl rfl) (.unreadable rfl)
  exact ⟨herror, (hsame hagree).symm, hmasked rfl _ herror,
    ((hrule _).1 huser).symm⟩

end Config

end QuartoLint
