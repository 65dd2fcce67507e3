/-
Linting many files at once.

Each path of a batch becomes a task. A task first reads its file and then
checks what it has read, or gives up with a finding that says why the file
could not be read; a file that cannot be read never stops the others. Tasks
take their steps in any order. A schedule is a list of task numbers, each of
which lets that task take its next step; a number that names no task, or a
task that is over, changes nothing. In the end the tasks are awaited in the
order of the paths, and awaiting a task drives it to its end.

No step of a task can fail, but what runs the tasks may break one off. Then
awaiting it gives a reason in place of a report, and the report of its path
is a finding with the reason. A schedule breaks no task off.

Main statement: whatever the schedule, the reports are those of the paths
one by one (`lintFiles_eq_map`).
-/
import QuartoLint.FileSystem
import QuartoLint.Report

namespace QuartoLint

-- ============================================================== one file

/-- A file that could not be read, and why. -/
structure LoadError where
  path : Path
  cause : ReadFault
deriving Repr, DecidableEq

def LoadError.message (error : LoadError) : Text :=
  "could not read file ".toList ++ error.path ++ ": ".toList
    ++ error.cause.message

/-- The document that a path leads to; its source is the path. -/
def Document.load (files : FileSystem) (path : Path) :
    Except LoadError Document :=
  match files.readText path with
  | .ok text => .ok (.ofText path text)
  | .error cause => .error ⟨path, cause⟩

def Report.unreadable (error : LoadError) : Report where
  source := error.path
  diagnostics := [.forDocument .io
    ("could not read file: ".toList ++ error.cause.message)]

/-- The report of what came of loading a document. -/
def lintLoaded : Except LoadError Document → Report
  | .ok document => lintDocument document
  | .error error => .unreadable error

/-- The report of the file that a path leads to. -/
def lintFile (files : FileSystem) (path : Path) : Report :=
  lintLoaded (Document.load files path)

def lintRecords (files : FileSystem) (path : Path) : List Log.Record :=
  match files.readText path with
  | .ok text =>
    [.loaded path (Text.utf8Size text), validationRecord (.ofText path text)]
  | .error cause => [.skipped path (LoadError.mk path cause).message]

-- ================================================================= tasks

/-- How far a task has come. -/
inductive Task
  | waiting (path : Path)
  | loaded (content : Except LoadError Document)
  | done (report : Report)
  /-- The task was broken off, for the given reason. -/
  | failed (reason : Text)

/-- The report of a path whose task was broken off. -/
def Report.taskFailed (path : Path) (reason : Text) : Report where
  source := path
  diagnostics := [.forDocument .io ("lint task failed: ".toList ++ reason)]

namespace Task

/-- The next step of a task; one that is over takes none. -/
def advance (files : FileSystem) : Task → Task
  | waiting path => loaded (Document.load files path)
  | loaded content => done (lintLoaded content)
  | done report => done report
  | failed reason => failed reason

/-- What comes of a task that is left to run to its end: a report, or the
reason why there is none. -/
def await (files : FileSystem) : Task → Except Text Report
  | waiting path => .ok (lintFile files path)
  | loaded content => .ok (lintLoaded content)
  | done report => .ok report
  | failed reason => .error reason

/-- The report of a path once its task has been awaited. -/
def report (files : FileSystem) (path : Path) (task : Task) : Report :=
  match task.await files with
  | .ok report => report
  | .error reason => .taskFailed path reason

/-- A step does not change what a task comes to. -/
@[simp] theorem await_advance (files : FileSystem) (task : Task) :
    (task.advance files).await files = task.await files := by
  cases task <;> rfl

end Task

-- ================================================================= batch

/-- The paths of a batch, each with its task. -/
abbrev Batch := List (Path × Task)

namespace Batch

/-- Each path with a task that waits to read it. -/
def spawn (paths : List Path) : Batch := paths.zip (paths.map .waiting)

/-- The task of a number takes its next step. -/
def advance (files : FileSystem) (batch : Batch) (number : Nat) : Batch :=
  batch.modify number fun (path, task) => (path, task.advance files)

/-- The task of a number is broken off. -/
def fail (batch : Batch) (number : Nat) (reason : Text) : Batch :=
  batch.modify number fun (path, _) => (path, .failed reason)

/-- The tasks take steps as the schedule says. -/
def run (files : FileSystem) (batch : Batch) (schedule : List Nat) : Batch :=
  schedule.foldl (advance files) batch

/-- The reports of all paths, each task left to run to its end. -/
def reports (files : FileSystem) (batch : Batch) : List Report :=
  batch.map fun (path, task) => task.report files path

/-- A step of one task does not change what the batch comes to. -/
@[simp] theorem reports_advance (files : FileSystem) (batch : Batch)
    (number : Nat) :
    (batch.advance files number).reports files = batch.reports files := by
  apply List.ext_getElem?
  intro i
  simp only [reports, advance, List.getElem?_map, List.getElem?_modify]
  cases batch[i]? with
  | none => rfl
  | some entry =>
    by_cases hi : number = i <;> simp [hi, Task.report]

/-- No schedule changes what the batch comes to. -/
@[simp] theorem reports_run (files : FileSystem) (batch : Batch)
    (schedule : List Nat) :
    (batch.run files schedule).reports files = batch.reports files := by
  induction schedule generalizing batch with
  | nil => rfl
  | cons number rest ih =>
    rw [run, List.foldl_cons, ← run, ih, reports_advance]

/-- Matching the paths with their tasks again gives each path its own. -/
theorem spawn_eq_map (paths : List Path) :
    spawn paths = paths.map fun path => (path, .waiting path) := by
  have hzip : (paths.map id).zip (paths.map Task.waiting)
      = paths.map fun path => (path, .waiting path) := List.zip_map'
  rw [List.map_id] at hzip
  exact hzip

/-- A batch that has not begun comes to the reports of its paths one by
one. -/
theorem reports_spawn (files : FileSystem) (paths : List Path) :
    (spawn paths).reports files = paths.map (lintFile files) := by
  rw [spawn_eq_map, reports, List.map_map]
  rfl

end Batch

/-- The reports of the files that the paths lead to, the tasks taking steps as
the schedule says before they are awaited. -/
def lintFiles (files : FileSystem) (schedule : List Nat)
    (paths : List Path) : List Report :=
  ((Batch.spawn paths).run files schedule).reports files

/-- Each report is the report of its path alone. -/
theorem lintFiles_eq_map (files : FileSystem) (schedule : List Nat)
    (paths : List Path) :
    lintFiles files schedule paths = paths.map (lintFile files) := by
  rw [lintFiles, Batch.reports_run, Batch.reports_spawn]

end QuartoLint
