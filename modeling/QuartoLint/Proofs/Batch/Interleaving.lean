/-
The tasks of a batch in any order.

While a batch is under way, any task that is not over can take its next step
at any time, also while reports are collected, and the report of the first
task that has not been collected can be collected as soon as that task is
over. Nothing else orders the steps of different tasks. A task that is not
over can also be broken off, where the batch is told for which paths and
reasons this may happen (`Batch.Step`).

# The invariant

The reports that were collected are those of the first paths, and the tasks
left are those of the other paths (`Batch.Progress.Accounts`). Each report,
collected or still to come, is the report of its path alone, or it says that
the task of the path was broken off (`Report.MayBeFor`). No step changes this
(`Batch.Step.accounts`): the steps of a task lead to one report, a task that
is broken off has no part in the report of another path, and a collected
report keeps its place behind those before it.

# The end

Each step leaves less to do (`Batch.Step.stepsLeft_lt`), and as long as a task
is left there is a step to take (`Batch.exists_step`). So every order of steps
comes to an end, with a report for each path (`Batch.Run.ended`). If no task
can be broken off, all ends are the same, and there the reports are those of
the paths one by one (`Batch.run_maximal_iff`).
-/
import Mathlib.Data.List.Forall2
import Mathlib.Logic.Relation
import QuartoLint.Proofs.Batch.OneFile

namespace QuartoLint

-- ================================================================== tasks

namespace Task

def isOver : Task → Bool
  | waiting _ | loaded _ => false
  | done _ | failed _ => true

/-- The most steps that a task has still to take. -/
def stepsLeft : Task → Nat
  | waiting _ => 2
  | loaded _ => 1
  | done _ | failed _ => 0

/-- A task that takes a step has fewer to take. -/
theorem stepsLeft_advance_lt (files : FileSystem) {task : Task}
    (hbusy : task.isOver = false) :
    (task.advance files).stepsLeft < task.stepsLeft := by
  cases task with
  | waiting path => exact Nat.one_lt_two
  | loaded content => exact Nat.one_pos
  | done report => cases hbusy
  | failed reason => cases hbusy

theorem stepsLeft_pos {task : Task} (hbusy : task.isOver = false) :
    0 < task.stepsLeft := by
  cases task with
  | waiting path => exact Nat.two_pos
  | loaded content => exact Nat.one_pos
  | done report => cases hbusy
  | failed reason => cases hbusy

end Task

-- ================================================================== steps

namespace Batch

/-- The most steps to the end: those of each task, and one to collect its
report. -/
def stepsLeft : Batch → Nat
  | [] => 0
  | (_, task) :: rest => task.stepsLeft + 1 + stepsLeft rest

/-- A batch under way: the reports that have been collected, and the paths
whose reports have not, with their tasks. -/
structure Progress where
  collected : List Report
  tasks : Batch

namespace Progress

/-- Every task waits, and nothing has been collected. -/
def start (paths : List Path) : Progress := ⟨[], spawn paths⟩

/-- Everything has been collected. -/
def ended (reports : List Report) : Progress := ⟨reports, []⟩

end Progress

/-- What can happen next in a batch, if the task of a path may be broken off
for those reasons that `fails` admits. -/
inductive Step (files : FileSystem) (fails : Path → Text → Prop) :
    Progress → Progress → Prop
  /-- Some task that is not over takes its next step. -/
  | advance {tasks : Batch} {path : Path} {task : Task}
      (collected : List Report) (number : Nat)
      (htask : tasks[number]? = some (path, task))
      (hbusy : task.isOver = false) :
      Step files fails ⟨collected, tasks⟩
        ⟨collected, Batch.advance files tasks number⟩
  /-- Some task that is not over is broken off. -/
  | fail {tasks : Batch} {path : Path} {task : Task}
      (collected : List Report) (number : Nat) (reason : Text)
      (htask : tasks[number]? = some (path, task))
      (hbusy : task.isOver = false) (hfails : fails path reason) :
      Step files fails ⟨collected, tasks⟩
        ⟨collected, Batch.fail tasks number reason⟩
  /-- The first task left is over and the report of its path is collected. -/
  | collect (collected : List Report) (path : Path) (task : Task)
      (rest : Batch) (hover : task.isOver = true) :
      Step files fails ⟨collected, (path, task) :: rest⟩
        ⟨collected ++ [task.report files path], rest⟩

/-- Any number of steps, in any order that they allow. -/
abbrev Run (files : FileSystem) (fails : Path → Text → Prop) :
    Progress → Progress → Prop :=
  Relation.ReflTransGen (Step files fails)

variable {files : FileSystem} {fails : Path → Text → Prop}
  {progress next : Progress} {batch : Batch} {number : Nat}
  {change : Path × Task → Path × Task}

-- ========================================================= one task changes

/-- What holds of all tasks still does when one is changed, if it holds of
the task that this becomes. -/
theorem forall_mem_modify {property : Path × Task → Prop}
    (hall : ∀ entry ∈ batch, property entry)
    (hchanged : ∀ entry, batch[number]? = some entry →
      property (change entry)) :
    ∀ entry ∈ batch.modify number change, property entry := by
  intro entry hmem
  obtain ⟨i, hi⟩ := List.mem_iff_getElem?.1 hmem
  rw [List.getElem?_modify] at hi
  obtain ⟨old, hold, rfl⟩ := Option.map_eq_some_iff.1 hi
  by_cases hnumber : number = i
  · rw [if_pos hnumber]
    exact hchanged old (hnumber ▸ hold)
  · rw [if_neg hnumber]
    exact hall old (List.mem_of_getElem? hold)

/-- The paths stay where they are. -/
theorem map_fst_modify (hchange : ∀ entry, (change entry).1 = entry.1) :
    (batch.modify number change).map Prod.fst = batch.map Prod.fst := by
  induction batch generalizing number with
  | nil => cases number <;> rfl
  | cons first rest ih =>
      cases number with
      | zero => exact congrArg (· :: rest.map Prod.fst) (hchange first)
      | succ number => exact congrArg (first.1 :: ·) ih

theorem map_fst_advance (files : FileSystem) (batch : Batch) (number : Nat) :
    (batch.advance files number).map Prod.fst = batch.map Prod.fst :=
  map_fst_modify fun _ => rfl

theorem map_fst_fail (batch : Batch) (number : Nat) (reason : Text) :
    (batch.fail number reason).map Prod.fst = batch.map Prod.fst :=
  map_fst_modify fun _ => rfl

/-- A task with fewer steps to take leaves the batch with fewer. -/
theorem stepsLeft_modify_lt {entry : Path × Task}
    (hentry : batch[number]? = some entry)
    (hfewer : (change entry).2.stepsLeft < entry.2.stepsLeft) :
    stepsLeft (batch.modify number change) < batch.stepsLeft := by
  induction batch generalizing number with
  | nil => cases hentry
  | cons first rest ih =>
      cases number with
      | zero =>
          have hfirst : first = entry := Option.some.inj hentry
          subst hfirst
          show (change first).2.stepsLeft + 1 + stepsLeft rest
            < first.2.stepsLeft + 1 + stepsLeft rest
          omega
      | succ number =>
          have hrest := ih hentry
          show first.2.stepsLeft + 1 + stepsLeft (rest.modify number change)
            < first.2.stepsLeft + 1 + stepsLeft rest
          omega

-- ============================================================ the invariant

end Batch

/-- The reports that a path may have: that of the path alone, and those that
say that its task was broken off. -/
inductive Report.MayBeFor (files : FileSystem) (fails : Path → Text → Prop)
    (path : Path) : Report → Prop
  | alone : MayBeFor files fails path (lintFile files path)
  | failed {reason : Text} (hfails : fails path reason) :
      MayBeFor files fails path
        ⟨path, [.forDocument .io ("lint task failed: ".toList ++ reason)]⟩

namespace Batch

/-- The collected reports and the tasks left make up the batch of the paths,
in order, and each path has a report that it may have, or will have. -/
def Progress.Accounts (files : FileSystem) (fails : Path → Text → Prop)
    (paths : List Path) (progress : Progress) : Prop :=
  ∃ settled, paths = settled ++ progress.tasks.map Prod.fst
    ∧ List.Forall₂ (Report.MayBeFor files fails) settled progress.collected
    ∧ ∀ entry ∈ progress.tasks,
      (entry.2.report files entry.1).MayBeFor files fails entry.1

variable {paths : List Path}

/-- Before anything has happened, every task will bring its own report. -/
theorem accounts_start (files : FileSystem) (fails : Path → Text → Prop)
    (paths : List Path) : (Progress.start paths).Accounts files fails paths := by
  refine ⟨[], ?_, .nil, ?_⟩
  · show paths = (spawn paths).map Prod.fst
    rw [spawn_eq_map, List.map_map]
    exact (List.map_id paths).symm
  · show ∀ entry ∈ spawn paths, _
    rw [spawn_eq_map, List.forall_mem_map]
    exact fun path _ => .alone

/-- No step changes that the batch accounts for its paths. -/
theorem Step.accounts (hstep : Step files fails progress next)
    (haccounts : progress.Accounts files fails paths) :
    next.Accounts files fails paths := by
  obtain ⟨settled, hpaths, hcollected, htasks⟩ := haccounts
  cases hstep with
  | advance collected number htask hbusy =>
      refine ⟨settled, ?_, hcollected, ?_⟩
      · rw [map_fst_advance]
        exact hpaths
      · refine forall_mem_modify htasks fun entry hentry => ?_
        have hreport := htasks entry (List.mem_of_getElem? hentry)
        unfold Task.report at hreport ⊢
        rw [Task.await_advance]
        exact hreport
  | fail collected number reason htask hbusy hfails =>
      refine ⟨settled, ?_, hcollected, ?_⟩
      · rw [map_fst_fail]
        exact hpaths
      · refine forall_mem_modify htasks fun entry hentry => ?_
        -- the task that is broken off is that of its own path
        cases htask.symm.trans hentry
        exact .failed hfails
  | collect collected path task rest hover =>
      obtain ⟨hreport, hrest⟩ := List.forall_mem_cons.1 htasks
      refine ⟨settled ++ [path], ?_, ?_, hrest⟩
      · rw [hpaths, List.append_assoc]
        rfl
      · exact List.rel_append hcollected (.cons hreport .nil)

theorem Run.accounts (hrun : Run files fails progress next)
    (haccounts : progress.Accounts files fails paths) :
    next.Accounts files fails paths := by
  induction hrun with
  | refl => exact haccounts
  | tail _ hstep ih => exact hstep.accounts ih

-- ================================================================ the end

/-- A step leaves less to do. -/
theorem Step.stepsLeft_lt (hstep : Step files fails progress next) :
    next.tasks.stepsLeft < progress.tasks.stepsLeft := by
  cases hstep with
  | advance collected number htask hbusy =>
      exact stepsLeft_modify_lt htask (Task.stepsLeft_advance_lt files hbusy)
  | fail collected number reason htask hbusy hfails =>
      exact stepsLeft_modify_lt htask (Task.stepsLeft_pos hbusy)
  | collect collected path task rest hover =>
      show stepsLeft rest < task.stepsLeft + 1 + stepsLeft rest
      omega

/-- No order of steps goes on for ever. -/
theorem wellFounded_step (files : FileSystem) (fails : Path → Text → Prop) :
    WellFounded fun next progress => Step files fails progress next :=
  Subrelation.wf (fun hstep => Step.stepsLeft_lt hstep)
    (InvImage.wf (fun progress : Progress => progress.tasks.stepsLeft)
      Nat.lt_wfRel.wf)

/-- As long as a task is left, there is a step to take. -/
theorem exists_step (files : FileSystem) (fails : Path → Text → Prop)
    (collected : List Report) (entry : Path × Task) (rest : Batch) :
    ∃ next, Step files fails ⟨collected, entry :: rest⟩ next := by
  obtain ⟨path, task⟩ := entry
  cases hover : task.isOver with
  | true => exact ⟨_, .collect collected path task rest hover⟩
  | false =>
      have htask : ((path, task) :: rest)[0]? = some (path, task) := rfl
      exact ⟨_, .advance collected 0 htask hover⟩

/-- No step is left exactly when everything has been collected. -/
theorem forall_not_step_iff :
    (∀ next, ¬ Step files fails progress next) ↔ progress.tasks = [] := by
  obtain ⟨collected, tasks⟩ := progress
  cases tasks with
  | nil =>
      refine iff_of_true (fun next hstep => ?_) rfl
      cases hstep with
      | advance _ _ htask _ => cases htask
      | fail _ _ _ htask _ _ => cases htask
  | cons entry rest =>
      refine iff_of_false (fun hstuck => ?_) (List.cons_ne_nil _ _)
      obtain ⟨next, hstep⟩ := exists_step files fails collected entry rest
      exact hstuck next hstep

/-- From every state of a batch an end can be reached. -/
theorem exists_run_ended (files : FileSystem) (fails : Path → Text → Prop)
    (progress : Progress) :
    ∃ reports, Run files fails progress (.ended reports) := by
  induction progress using (wellFounded_step files fails).induction with
  | _ progress ih =>
      obtain ⟨collected, tasks⟩ := progress
      cases tasks with
      | nil => exact ⟨collected, .refl⟩
      | cons entry rest =>
          obtain ⟨next, hstep⟩ := exists_step files fails collected entry rest
          obtain ⟨reports, hrun⟩ := ih next hstep
          exact ⟨reports, .head hstep hrun⟩

/-- A run that cannot go on has collected a report for each path, in the order
of the paths. -/
theorem Run.ended (hrun : Run files fails (.start paths) progress)
    (hstuck : ∀ next, ¬ Step files fails progress next) :
    ∃ reports, progress = .ended reports
      ∧ List.Forall₂ (Report.MayBeFor files fails) paths reports := by
  have htasks := forall_not_step_iff.1 hstuck
  obtain ⟨settled, hpaths, hcollected, -⟩ :=
    hrun.accounts (accounts_start files fails paths)
  obtain ⟨collected, tasks⟩ := progress
  dsimp only at htasks hpaths
  subst htasks
  rw [List.map_nil, List.append_nil] at hpaths
  exact ⟨collected, rfl, hpaths ▸ hcollected⟩

/-- Where no task can be broken off, each path has its own report. -/
theorem eq_map_of_mayBeFor {reports : List Report}
    (hreports : List.Forall₂ (Report.MayBeFor files fails) paths reports)
    (hnone : ∀ path ∈ paths, ∀ reason, ¬ fails path reason) :
    reports = paths.map (lintFile files) := by
  induction hreports with
  | nil => rfl
  | cons hreport hrest ih =>
      obtain ⟨hpath, hpaths⟩ := List.forall_mem_cons.1 hnone
      rw [ih hpaths, List.map_cons]
      cases hreport with
      | alone => rfl
      | failed hfails => exact absurd hfails (hpath _)

/-- Where no task can be broken off, the runs of a batch that cannot go on have
all collected the reports of the paths one by one, and there are such runs. -/
theorem run_maximal_iff
    (hnone : ∀ path ∈ paths, ∀ reason, ¬ fails path reason) :
    (Run files fails (.start paths) progress
        ∧ ∀ next, ¬ Step files fails progress next)
      ↔ progress = .ended (paths.map (lintFile files)) := by
  constructor
  · intro hmaximal
    obtain ⟨hrun, hstuck⟩ := hmaximal
    obtain ⟨reports, rfl, hreports⟩ := hrun.ended hstuck
    rw [eq_map_of_mayBeFor hreports hnone]
  · rintro rfl
    have hstuck : ∀ reports next, ¬ Step files fails (.ended reports) next :=
      fun reports => forall_not_step_iff.2 rfl
    -- some run comes to an end, and there is only one end to come to
    obtain ⟨last, hrun⟩ := exists_run_ended files fails (.start paths)
    obtain ⟨reports, hlast, hreports⟩ := hrun.ended (hstuck last)
    rw [hlast, eq_map_of_mayBeFor hreports hnone] at hrun
    exact ⟨hrun, hstuck _⟩

end Batch

-- ========================================================== batch isolation

/-- What the report of a path has to be: under the name of the path, the
findings about the text that the file holds, or one finding about reading if
it holds none. -/
structure Report.IsFor (files : FileSystem) (path : Path) (report : Report) :
    Prop where
  source : report.source = path
  readable : ∀ text, files.Holds path text →
    report.diagnostics = (validate (.ofText path text)).toList
  unreadable : (∀ text, ¬ files.Holds path text) →
    ∃ message, report.diagnostics = [.forDocument .io message]

/-- The report of a file is what it has to be. -/
theorem isFor_lintFile (files : FileSystem) (path : Path) :
    (lintFile files path).IsFor files path := by
  rcases lintFile_cases files path with
    ⟨text, hholds, hreport⟩ | ⟨hnone, message, hreport⟩
  · constructor
    case source => rw [hreport]; rfl
    case readable =>
      intro other hother
      rw [lintFile_of_holds hother]
      rfl
    case unreadable => exact fun hnone => absurd hholds (hnone text)
  · constructor
    case source => rw [hreport]
    case readable => exact fun text hholds => absurd hholds (hnone text)
    case unreadable => exact fun _ => ⟨message, by rw [hreport]⟩

/-- Whatever the schedule, there is one report for each path, in the order of
the paths, and it is the report of that path alone. So it is too in whatever
order the tasks of a batch take their steps and come to their ends, if none of
them can be broken off. If some can, each path still has one report, in the
order of the paths, and only where its own task was broken off it says so and
is not the report of the path alone. So where a file is changed or removed,
the reports are the same but at the positions of paths that name it. -/
theorem lintFiles_isolated (files : FileSystem) (fails : Path → Text → Prop)
    (schedule : List Nat) (paths : List Path) :
    lintFiles files schedule paths = paths.map (lintFile files)
      ∧ (∀ path, (lintFile files path).IsFor files path)
      ∧ ((∀ path ∈ paths, ∀ reason, ¬ fails path reason) →
        ∀ progress, (Batch.Run files fails (.start paths) progress
              ∧ ∀ next, ¬ Batch.Step files fails progress next)
            ↔ progress = .ended (lintFiles files schedule paths))
      ∧ (∀ progress, Batch.Run files fails (.start paths) progress →
        (∀ next, ¬ Batch.Step files fails progress next) →
          ∃ reports, progress = .ended reports
            ∧ List.Forall₂ (Report.MayBeFor files fails) paths reports)
      ∧ (WellFounded fun next progress =>
        Batch.Step files fails progress next)
      ∧ ∀ (other : FileSystem) (otherSchedule : List Nat)
          (names : Path → Prop),
        (∀ path, ¬ names path → other.read path = files.read path) →
        ∀ (i : Nat) (path : Path), paths[i]? = some path → ¬ names path →
          (lintFiles other otherSchedule paths)[i]?
            = (lintFiles files schedule paths)[i]? := by
  refine ⟨lintFiles_eq_map files schedule paths, isFor_lintFile files, ?_,
    fun _ => Batch.Run.ended, Batch.wellFounded_step files fails, ?_⟩
  · intro hnone progress
    rw [lintFiles_eq_map]
    exact Batch.run_maximal_iff hnone
  · intro other otherSchedule names hsame i path hpath hnamed
    rw [lintFiles_eq_map, lintFiles_eq_map, List.getElem?_map,
      List.getElem?_map, hpath, Option.map_some, Option.map_some,
      lintFile_congr (hsame path hnamed)]

/-- Of two files, one listed twice, the other is removed. The task of the other
can be broken off, which matters to no batch without it. -/
theorem lintFiles_isolated_removed :
    let removed : FileSystem :=
      ⟨fun path => path == ['a'], fun path =>
        if path = ['a'] then .ok (Text.utf8 ['-', '-', '-']).toByteArray
        else .error .notFound⟩
    let files : FileSystem :=
      ⟨fun _ => true, fun path =>
        if path = ['b'] then .ok (Text.utf8 ['x']).toByteArray
        else removed.read path⟩
    let fails : Path → Text → Prop := fun path _ => path = ['b']
    let broken : Report :=
      ⟨['b'], [.forDocument .io "lint task failed: cancelled".toList]⟩
    (∀ path, path ≠ ['b'] → removed.read path = files.read path)
      ∧ (lintFiles removed [] [['a'], ['b'], ['a']])[2]?
        = (lintFiles files [1, 0, 2] [['a'], ['b'], ['a']])[2]?
      ∧ (∀ progress, (Batch.Run files fails (.start [['a']]) progress
            ∧ ∀ next, ¬ Batch.Step files fails progress next)
          ↔ progress = .ended (lintFiles files [] [['a']]))
      ∧ Batch.Run files fails (.start [['b']]) (.ended [broken])
      ∧ List.Forall₂ (Report.MayBeFor files fails) [['b']] [broken] := by
  intro removed files fails broken
  have hsame : ∀ path, path ≠ ['b'] →
      removed.read path = files.read path :=
    fun path hpath => (if_neg hpath).symm
  obtain ⟨-, -, -, -, -, hisolated⟩ :=
    lintFiles_isolated files fails [1, 0, 2] [['a'], ['b'], ['a']]
  obtain ⟨-, -, hordered, -, -, -⟩ :=
    lintFiles_isolated files fails [] [['a']]
  obtain ⟨-, -, -, hbroken, -, -⟩ :=
    lintFiles_isolated files fails [] [['b']]
  have hnone : ∀ path ∈ [['a']], ∀ reason, ¬ fails path reason :=
    List.forall_mem_singleton.2 fun _ => by decide
  have hrun : Batch.Run files fails (.start [['b']]) (.ended [broken]) :=
    .tail (.single (.fail [] 0 "cancelled".toList rfl rfl rfl))
      (.collect [] ['b'] (.failed "cancelled".toList) [] rfl)
  obtain ⟨reports, hreports, hmay⟩ :=
    hbroken _ hrun (Batch.forall_not_step_iff.2 rfl)
  cases hreports
  exact ⟨hsame, hisolated removed [] (· = ['b']) hsame 2 ['a'] rfl (by decide),
    hordered hnone, hrun, hmay⟩

end QuartoLint
