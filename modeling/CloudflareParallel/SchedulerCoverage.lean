import CloudflareParallel.SchedulerOpenExecutions
import Mathlib.Data.List.Perm.Basic

namespace CloudflareParallel

open KeyedTables

/-!
# Where the memory of the scheduler keeps a job

A job that storage holds as queued or leased should have a place in memory: a
ready bucket, the running map, or a task that puts it back.  Coverage says so
for one job, together with what its executions presume about its status, and
has one rule for each way in which a step can touch the job.
-/

/-- The task puts a job into the ready set when it goes on. -/
def SchedulerTask.wakes (jobId : String) : SchedulerTask → Bool
  | .enqueueStored job => job.id = jobId
  | .requeueing job => job.id = jobId
  | .retryTimer job _ => job.id = jobId
  | _ => false

/-- The task is an execution whose failure has queued its job again. -/
def SchedulerTask.requeues (jobId : String) : SchedulerTask → Bool
  | .requeueing job => job.id = jobId
  | _ => false

/-- The task is an execution with nothing left but its `finally` callback. -/
def SchedulerTask.finishes (jobId : String) : SchedulerTask → Bool
  | .finishing job => job.id = jobId
  | _ => false

/-- The task drops a job that it has cancelled. -/
def SchedulerTask.drops (jobId : String) : SchedulerTask → Bool
  | .cancelDone cancelledId ok => ok && cancelledId = jobId
  | _ => false

/-- What the tasks of the object have to do with a job. -/
structure JobRoles where
  waking : Prop
  requeued : Prop
  opened : Prop
  finishing : Prop
  dropping : Prop

/-- What one task has to do with a job. -/
def SchedulerTask.roles
    (task : SchedulerTask)
    (jobId : String) : JobRoles where
  waking := task.wakes jobId
  requeued := task.requeues jobId
  opened := task.isOpen jobId
  finishing := task.finishes jobId
  dropping := task.drops jobId

/-- The roles of one or the other. -/
def JobRoles.or (roles others : JobRoles) : JobRoles where
  waking := roles.waking ∨ others.waking
  requeued := roles.requeued ∨ others.requeued
  opened := roles.opened ∨ others.opened
  finishing := roles.finishing ∨ others.finishing
  dropping := roles.dropping ∨ others.dropping

/-- What a list of tasks has to do with a job. -/
def rolesOf
    (tasks : List SchedulerTask)
    (jobId : String) : JobRoles where
  waking := ∃ task ∈ tasks, task.wakes jobId
  requeued := ∃ task ∈ tasks, task.requeues jobId
  opened := ∃ task ∈ tasks, task.isOpen jobId
  finishing := ∃ task ∈ tasks, task.finishes jobId
  dropping := ∃ task ∈ tasks, task.drops jobId

/-- The roles of a task that has nothing to do with the job. -/
def JobRoles.none : JobRoles :=
  ⟨False, False, False, False, False⟩

@[simp]
theorem JobRoles.none_or (roles : JobRoles) : JobRoles.none.or roles = roles := by
  simp [JobRoles.or, JobRoles.none]

/-- The task has nothing to do with the places of any job. -/
def SchedulerTask.isNeutral : SchedulerTask → Bool
  | .enqueueStored _ => false
  | .cancelDone _ ok => !ok
  | .running _ _ => false
  | .settled _ _ => false
  | .requeueing _ => false
  | .finishing _ => false
  | .retryTimer _ _ => false
  | _ => true

theorem roles_of_isNeutral
    {task : SchedulerTask}
    (neutral : task.isNeutral)
    (jobId : String) :
    task.roles jobId = .none := by
  cases task <;>
    simp_all [SchedulerTask.isNeutral, SchedulerTask.roles, JobRoles.none,
      SchedulerTask.wakes, SchedulerTask.requeues, SchedulerTask.isOpen,
      SchedulerTask.finishes, SchedulerTask.drops]

theorem rolesOf_cons
    (task : SchedulerTask)
    (tasks : List SchedulerTask)
    (jobId : String) :
    rolesOf (task :: tasks) jobId =
      (task.roles jobId).or (rolesOf tasks jobId) := by
  simp [rolesOf, JobRoles.or, SchedulerTask.roles]

/-- The order of the tasks does not matter. -/
theorem rolesOf_perm
    {tasks others : List SchedulerTask}
    (sameTasks : tasks.Perm others)
    (jobId : String) :
    rolesOf tasks jobId = rolesOf others jobId := by
  simp [rolesOf, sameTasks.mem_iff]

theorem rolesOf_append
    (tasks : List SchedulerTask)
    (task : SchedulerTask)
    (jobId : String) :
    rolesOf (tasks ++ [task]) jobId =
      (task.roles jobId).or (rolesOf tasks jobId) := by
  rw [rolesOf_perm (List.perm_append_singleton task tasks), rolesOf_cons]

/-- One task and the others. -/
theorem rolesOf_eraseIdx
    {tasks : List SchedulerTask}
    {index : Nat}
    {task : SchedulerTask}
    (found : tasks[index]? = some task)
    (jobId : String) :
    rolesOf tasks jobId =
      (task.roles jobId).or (rolesOf (tasks.eraseIdx index) jobId) := by
  obtain ⟨inside, rfl⟩ := List.getElem?_eq_some_iff.mp found
  rw [← rolesOf_cons,
    rolesOf_perm (List.getElem_cons_eraseIdx_perm inside)]

/-- A task that goes on leaves the others. -/
theorem rolesOf_set
    {tasks : List SchedulerTask}
    {index : Nat}
    {old : SchedulerTask}
    (found : tasks[index]? = some old)
    (task : SchedulerTask)
    (jobId : String) :
    rolesOf (tasks.set index task) jobId =
      (task.roles jobId).or (rolesOf (tasks.eraseIdx index) jobId) := by
  obtain ⟨inside, -⟩ := List.getElem?_eq_some_iff.mp found
  rw [← rolesOf_cons,
    rolesOf_perm (List.set_perm_cons_eraseIdx inside task)]

/-- The job is stored in a state that no operation leaves. -/
def Ended (status : Option JobStatus) : Prop :=
  ∃ final, status = some final ∧ final.isTerminal

/--
A job is covered: while it is queued it is ready or about to be, while it is
leased the loop or the running map has it or it is being queued again, and its
executions presume the right status.
-/
structure Covered
    (status : Option JobStatus)
    (ready held running : Prop)
    (roles : JobRoles) : Prop where
  queued : status = some .queued → ready ∨ roles.waking
  leased : status = some .leased → held ∨ running ∨ roles.requeued
  opened :
    roles.opened ∨ held →
    status = some .leased ∨ Ended status ∨ roles.requeued
  finishing : roles.finishing → Ended status ∨ roles.requeued
  dropping : roles.dropping → Ended status

namespace Covered

variable {status : Option JobStatus}
variable {ready held running ready' held' running' : Prop}
variable {roles roles' : JobRoles}

/-- A job in its final state needs no place. -/
theorem ended (isEnded : Ended status) :
    Covered status ready held running roles where
  queued isQueued := by
    obtain ⟨final, rfl, terminal⟩ := isEnded
    cases isQueued
    cases terminal
  leased isLeased := by
    obtain ⟨final, rfl, terminal⟩ := isEnded
    cases isLeased
    cases terminal
  opened _ := .inr (.inl isEnded)
  finishing _ := .inl isEnded
  dropping _ := isEnded

/-- A step that keeps the status and the places of a job. -/
theorem keep
    (covered : Covered status ready held running roles)
    (places :
      status = some .queued →
      ready ∨ roles.waking →
      ready' ∨ roles'.waking)
    (runs :
      status = some .leased →
      held ∨ running ∨ roles.requeued →
      held' ∨ running' ∨ roles'.requeued)
    (requeued : roles.requeued → roles'.requeued)
    (opened : roles'.opened ∨ held' → roles.opened ∨ held)
    (finishing :
      roles'.finishing →
      roles.finishing ∨ Ended status ∨ roles'.requeued)
    (dropping : roles'.dropping → roles.dropping ∨ Ended status) :
    Covered status ready' held' running' roles' where
  queued isQueued := places isQueued (covered.queued isQueued)
  leased isLeased := runs isLeased (covered.leased isLeased)
  opened isOpen :=
    (covered.opened (opened isOpen)).imp_right fun fate =>
      fate.imp_right requeued
  finishing finishes := by
    rcases finishing finishes with before | now
    · exact (covered.finishing before).imp_right requeued
    · exact now
  dropping drops := by
    rcases dropping drops with before | now
    · exact covered.dropping before
    · exact now

/-- A task goes on, and the other tasks stay. -/
theorem goOn
    {old new others : JobRoles}
    (covered : Covered status ready held running (old.or others))
    (staysReady : status = some .queued → ready → ready')
    (wakes : status = some .queued → old.waking → ready' ∨ new.waking)
    (staysRunning :
      status = some .leased →
      running →
      running' ∨ new.requeued ∨ others.requeued)
    (requeued : old.requeued → new.requeued)
    (opened : new.opened → old.opened)
    (finishing :
      new.finishing →
      old.finishing ∨ Ended status ∨ new.requeued ∨ others.requeued)
    (dropping : new.dropping → old.dropping ∨ Ended status) :
    Covered status ready' held running' (new.or others) := by
  refine covered.keep ?_ ?_ ?_ ?_ ?_ ?_
  · rintro isQueued (isReady | waking | waking)
    · exact .inl (staysReady isQueued isReady)
    · exact (wakes isQueued waking).imp_right .inl
    · exact .inr (.inr waking)
  · rintro isLeased (held | isRunning | again)
    · exact .inl held
    · exact .inr (staysRunning isLeased isRunning)
    · exact .inr (.inr (again.imp_left requeued))
  · exact Or.imp_left requeued
  · exact Or.imp_left (Or.imp_left opened)
  · rintro (finishes | finishes)
    · exact (finishing finishes).imp_left .inl
    · exact .inl (.inr finishes)
  · rintro (drops | drops)
    · exact (dropping drops).imp_left .inl
    · exact .inl (.inr drops)

/-- A leased job whose failure has queued it again. -/
theorem requeue
    (covered : Covered status ready held running roles)
    (isLeased : status = some .leased)
    (queuedAgain : roles'.waking ∧ roles'.requeued)
    (dropping : roles'.dropping → roles.dropping) :
    Covered (some .queued) ready' held' running' roles' where
  queued _ := .inr queuedAgain.1
  leased wrong := by cases wrong
  opened _ := .inr (.inr queuedAgain.2)
  finishing _ := .inr queuedAgain.2
  dropping drops := by
    obtain ⟨final, same, terminal⟩ := covered.dropping (dropping drops)
    rw [isLeased] at same
    cases same
    cases terminal

/-- A job that is new in the table. -/
theorem insert
    (covered : Covered none ready held running roles)
    (stored : roles'.waking)
    (requeued : roles.requeued → roles'.requeued)
    (opened : roles'.opened → roles.opened)
    (finishing : roles'.finishing → roles.finishing)
    (dropping : roles'.dropping → roles.dropping) :
    Covered (some .queued) ready' held running' roles' where
  queued _ := .inr stored
  leased wrong := by cases wrong
  opened isOpen := by
    rcases covered.opened (isOpen.imp_left opened) with
      wrong | ⟨_, wrong, _⟩ | again
    · cases wrong
    · cases wrong
    · exact .inr (.inr (requeued again))
  finishing finishes := by
    rcases covered.finishing (finishing finishes) with ⟨_, wrong, _⟩ | again
    · cases wrong
    · exact .inr (requeued again)
  dropping drops := by
    obtain ⟨_, wrong, _⟩ := covered.dropping (dropping drops)
    cases wrong

/-- A job that the loop has claimed. -/
theorem claim
    (covered : Covered status ready held running roles)
    (wasActive : ¬ Ended status)
    (holds : held') :
    Covered (some .leased) ready' held' running' roles where
  queued wrong := by cases wrong
  leased _ := .inl holds
  opened _ := .inl rfl
  finishing finishes :=
    (covered.finishing finishes).imp_left fun isEnded =>
      absurd isEnded wasActive
  dropping drops := absurd (covered.dropping drops) wasActive

end Covered

end CloudflareParallel
