/-
What a run looks at.

A run depends on the file system only through the paths that it may look at:
the config file named in the arguments, the candidates for one, and the files
to lint (`runWith_congr`). So the answers for these paths can be gathered
before the run, and the run on what was gathered is the run on the file
system itself (`runWith_ofFindings`).
-/
import QuartoLint.Main
import QuartoLint.Proofs.Batch.OneFile
import QuartoLint.Proofs.Config.Applied

namespace QuartoLint

/-- Two file systems that a path does not tell apart. -/
structure FileSystem.AgreeAt (files other : FileSystem) (path : Path) :
    Prop where
  isFile : files.isFile path = other.isFile path
  read : files.read path = other.read path

variable {files other : FileSystem} {directories : ConfigDirectories}
  {environment : Environment} {arguments : Arguments}

-- ============================================================ the run itself

theorem project_mem_consulted :
    directories.project.join ".qmdlint.toml".toList
      ∈ consulted directories arguments :=
  List.mem_append_left _ (List.mem_append_right _ List.mem_cons_self)

theorem user_mem_consulted {directory : Path}
    (huser : directories.user = some directory) :
    directory.join "config.toml".toList ∈ consulted directories arguments := by
  have hmem : directory.join "config.toml".toList
      ∈ directories.userFile?.toList := by
    rw [Option.mem_toList, ConfigDirectories.userFile?, huser]
    rfl
  exact List.mem_append_left _
    (List.mem_append_right _ (List.mem_cons_of_mem _ hmem))

theorem named_mem_consulted {path : Path}
    (hnamed : arguments.config = some path) :
    path ∈ consulted directories arguments :=
  List.mem_append_left _ (List.mem_append_left _ (Option.mem_toList.2 hnamed))

/-- Whichever config file is applied, it is one that is looked at. -/
theorem Config.Applies.mem_consulted {path : Path}
    (happlied : Applies files directories arguments (some path)) :
    path ∈ consulted directories arguments := by
  cases happlied with
  | named hnamed hfile => exact named_mem_consulted hnamed
  | project hunnamed hfile => exact project_mem_consulted
  | user hunnamed hproject huser hfile => exact user_mem_consulted huser

/-- File systems that agree on what is looked at agree in particular on what
decides the configuration. -/
theorem Config.agreeDownToApplied_of_consulted
    (hagree : ∀ path ∈ consulted directories arguments,
      files.AgreeAt other path) :
    AgreeDownToApplied files other directories arguments where
  named path hnamed := (hagree path (named_mem_consulted hnamed)).isFile
  project _ := (hagree _ project_mem_consulted).isFile
  user _ _ _ huser := (hagree _ (user_mem_consulted huser)).isFile
  content path happlied := (hagree path happlied.mem_consulted).read

/-- A run depends on the file system only through the paths it may look
at. -/
theorem runWith_congr
    (hagree : ∀ path ∈ consulted environment.directories arguments,
      files.AgreeAt other path) :
    runWith files environment arguments
      = runWith other environment arguments := by
  unfold runWith
  rw [(Config.agreeDownToApplied_of_consulted hagree).resolve_eq]
  cases hconfig : Config.resolve other environment.directories arguments with
  | error error => rfl
  | ok config =>
      have hreports : lintFiles files environment.schedule config.files
          = lintFiles other environment.schedule config.files := by
        rw [lintFiles_eq_map, lintFiles_eq_map, Config.files_of_resolve hconfig]
        refine List.map_congr_left fun path hpath => lintFile_congr ?_
        exact (hagree path (List.mem_append_right _ hpath)).read
      simp only [Outcome.ofConfig, hreports]

-- ======================================================== gathered answers

/-- What a file system answers for a path. -/
def FileSystem.finding (files : FileSystem) (path : Path) : Finding :=
  ⟨files.isFile path, files.read path⟩

/-- Each path leads to the answers that were gathered for it. -/
theorem FileSystem.lookup_findings {paths : List Path} {path : Path}
    (hpath : path ∈ paths) :
    (paths.zip (paths.map files.finding)).lookup path
      = some (files.finding path) := by
  induction paths with
  | nil => cases hpath
  | cons first rest ih =>
      rw [List.map_cons, List.zip_cons_cons, List.lookup_cons]
      split
      case h_1 hfirst =>
        rw [beq_iff_eq] at hfirst
        rw [hfirst]
      case h_2 hfirst =>
        rw [beq_eq_false_iff_ne] at hfirst
        exact ih (List.mem_of_ne_of_mem hfirst hpath)

theorem FileSystem.agreeAt_ofFindings {findings : List (Path × Finding)}
    {path : Path} (hfound : findings.lookup path = some (files.finding path)) :
    (ofFindings findings).AgreeAt files path := by
  unfold ofFindings
  constructor
  case isFile =>
    dsimp only
    rw [hfound]
    rfl
  case read =>
    dsimp only
    rw [hfound]
    rfl

/-- For a run it is enough to know what the file system answers for the paths
that it may look at. -/
theorem runWith_ofFindings (files : FileSystem) (environment : Environment)
    (arguments : Arguments) :
    let paths := (consulted environment.directories arguments).eraseDups
    runWith (.ofFindings (paths.zip (paths.map files.finding))) environment
        arguments
      = runWith files environment arguments := by
  intro paths
  refine runWith_congr fun path hpath => FileSystem.agreeAt_ofFindings ?_
  exact files.lookup_findings (List.mem_eraseDups.2 hpath)

end QuartoLint
