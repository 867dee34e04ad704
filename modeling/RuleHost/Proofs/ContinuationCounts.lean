import RuleHost.Proofs.TaskFates

/-! How many continuations a scheduler has run. It counts those that were attached through it and whose
source was resolved, each of them once. -/

namespace RuleHost.Loop

variable {σ : Type}

def World.isResolved (w : World) (cell : CellId) : Bool :=
  match w.state? cell with
  | some (.resolved _ _) => true
  | _ => false

/-- Whether a scheduler counts a task once it has ended: a continuation whose source was resolved. -/
def Job.counts (scheduler : SchedulerId) (w : World) : Job σ → Bool
  | .continuation (some other) source _ _ => other == scheduler && w.isResolved source
  | _ => false

def Task.ran (scheduler : SchedulerId) (w : World) (task : Task σ) : Bool :=
  task.phase == .ended && task.job.counts scheduler w

/-- Whether a call attached a continuation through a scheduler to what is resolved by now. -/
def Call.counts (scheduler : SchedulerId) (w : World) : Call σ → Bool
  | .attach (some other) source _ _ => other == scheduler && w.isResolved source
  | _ => false

theorem World.isResolved_of_state {w : World} {cell : CellId} {value : Value} {time : Nat}
    (resolved : w.state? cell = some (.resolved value time)) : w.isResolved cell = true := by
  simp only [isResolved, resolved]

theorem Task.ran_live {scheduler : SchedulerId} {w : World} {task : Task σ}
    (live : task.phase ≠ .ended) : task.ran scheduler w = false := by
  simp [ran, live]

theorem Task.ran_uncounted {scheduler : SchedulerId} {w : World} {task : Task σ}
    (other : ∀ counter source target body,
      task.job ≠ .continuation (some counter) source target body) : task.ran scheduler w = false := by
  have uncounted : task.job.counts scheduler w = false := by
    unfold Job.counts
    split
    next counter source target body job => exact absurd job (other counter source target body)
    next => rfl
  rw [ran, uncounted, Bool.and_false]

theorem Call.counts_job (scheduler : SchedulerId) (w : World) (call : Call σ) :
    call.counts scheduler w = call.job?.any (Job.counts scheduler w) := by
  cases call with
  | attach counter source body handle => cases counter <;> rfl
  | timeout | delay | countedDelay | clear | answer => rfl

namespace Machine

def Tally (m : Machine σ) : Prop :=
  ∀ scheduler, (m.toWorld.scheduler scheduler).stats.continuations =
    m.tasks.toList.countP (Task.ran scheduler m.toWorld)

theorem continuations_setScheduler {m n : Machine σ} {scheduler : SchedulerId} {table : TimerTable}
    (known : scheduler < m.schedulers.size)
    (tables : n.schedulers = (m.setScheduler scheduler table).schedulers)
    (same : table.stats.continuations = (m.toWorld.scheduler scheduler).stats.continuations)
    (other : SchedulerId) : (n.toWorld.scheduler other).stats.continuations =
      (m.toWorld.scheduler other).stats.continuations := by
  rw [scheduler_of_tables known tables]
  split
  next here => subst here; exact same
  next => rfl

theorem continuations_fire? {table next : TimerTable} {id : TimerId} (fired : table.fire? id = some next) :
    next.stats.continuations = table.stats.continuations := by
  unfold TimerTable.fire? at fired
  split at fired
  · cases fired; rfl
  · cases fired

theorem continuations_clear? {table next : TimerTable} {id : TimerId} {task : TaskId}
    (held : table.clear? id = some (task, next)) :
    next.stats.continuations = table.stats.continuations := by
  obtain ⟨_, _, same⟩ := Option.map_eq_some_iff.mp held
  cases same
  rfl

/-- Whether a continuation has run is settled when it ends. -/
theorem Standing.ran_persists {history : List (Record σ)} {m n : Machine σ}
    (standing : Standing history m) (persists : Persists m n) (scheduler : SchedulerId) {task : Task σ}
    (present : task ∈ m.tasks.toList) : task.ran scheduler n.toWorld = task.ran scheduler m.toWorld := by
  obtain ⟨id, found⟩ := List.mem_iff_getElem?.mp present
  rw [Array.getElem?_toList] at found
  by_cases ended : task.phase = .ended
  · have final {source : CellId} {state : CellState} (stored : m.toWorld.state? source = some state)
        (settled : ∀ writer, state ≠ .pending writer) :
        n.toWorld.isResolved source = m.toWorld.isResolved source := by
      simp only [World.isResolved, stored, persists.settled source state stored settled]
    have left := (standing.tasks id task found).ended ended
    unfold Task.ran Job.counts
    split
    next counter source target body job =>
      rw [job] at left
      have same : n.toWorld.isResolved source = m.toWorld.isResolved source := by
        rcases left with concluded | underway
        · cases concluded with
          | continued awaited => exact final awaited (by simp)
          | lost awaited => exact final awaited (by simp)
        · cases underway with
          | running awaited => exact final awaited (by simp)
      rw [same]
    next => rfl
  · rw [Task.ran_live ended, Task.ran_live ended]

theorem Standing.countP_ran {history : List (Record σ)} {m n : Machine σ}
    (standing : Standing history m) (persists : Persists m n) (scheduler : SchedulerId) :
    m.tasks.toList.countP (Task.ran scheduler n.toWorld) =
      m.tasks.toList.countP (Task.ran scheduler m.toWorld) := by
  apply List.countP_congr
  intro task present
  rw [standing.ran_persists persists scheduler present]

theorem countP_setPhase {m : Machine σ} {id : TaskId} {task : Task σ} (phase : Phase)
    (found : m.tasks[id]? = some task) {property : Task σ → Bool} (before : property task = false) :
    (m.setPhase id phase).tasks.toList.countP property =
      m.tasks.toList.countP property + if property { task with phase } then 1 else 0 := by
  obtain ⟨inside, same⟩ := Array.getElem?_eq_some_iff.mp found
  have tasks : (m.setPhase id phase).tasks.toList = m.tasks.toList.set id { task with phase } := by
    apply List.ext_getElem?
    intro other
    rw [Array.getElem?_toList, tasks_setPhase, List.getElem?_set]
    split
    next here =>
      subst here
      simp [inside, same]
    next => simp
  have within : id < m.tasks.toList.length := by simpa using inside
  have listed : m.tasks.toList[id] = task := by simpa using same
  rw [tasks, List.countP_set within, listed, before]
  simp

namespace Tally

variable {history : List (Record σ)} {m n : Machine σ}

theorem same (tally : Tally m) (tasks : n.tasks = m.tasks)
    (ran : ∀ scheduler, ∀ task ∈ m.tasks.toList,
      task.ran scheduler n.toWorld = task.ran scheduler m.toWorld)
    (counts : ∀ scheduler, (n.toWorld.scheduler scheduler).stats.continuations =
      (m.toWorld.scheduler scheduler).stats.continuations) : Tally n := by
  intro scheduler
  rw [counts, tally scheduler, tasks]
  apply List.countP_congr
  intro task present
  rw [ran scheduler task present]

theorem quiet (tally : Tally m) (standing : Standing history m) (persists : Persists m n)
    (tasks : n.tasks = m.tasks)
    (counts : ∀ scheduler, (n.toWorld.scheduler scheduler).stats.continuations =
      (m.toWorld.scheduler scheduler).stats.continuations) : Tally n :=
  tally.same tasks (fun scheduler _ present => standing.ran_persists persists scheduler present) counts

theorem spawn (tally : Tally m) (standing : Standing history m) (persists : Persists m n) (job : Job σ)
    (tasks : n.tasks = m.tasks.push ⟨job, .fresh, m.now⟩)
    (counts : ∀ scheduler, (n.toWorld.scheduler scheduler).stats.continuations =
      (m.toWorld.scheduler scheduler).stats.continuations) : Tally n := by
  intro scheduler
  have fresh : (Task.mk job .fresh m.now).ran scheduler n.toWorld = false := Task.ran_live (by simp)
  rw [counts, tally scheduler, tasks, Array.toList_push, List.countP_append, List.countP_singleton,
    fresh, standing.countP_ran persists]
  simp

theorem setPhase (tally : Tally m) (standing : Standing history m) (persists : Persists m n)
    {id : TaskId} {task : Task σ} {phase : Phase} (found : m.tasks[id]? = some task)
    (live : task.phase ≠ .ended) (tasks : n.tasks = (m.setPhase id phase).tasks)
    (counts : ∀ scheduler, (n.toWorld.scheduler scheduler).stats.continuations =
      (m.toWorld.scheduler scheduler).stats.continuations +
        if Task.ran scheduler n.toWorld { task with phase } then 1 else 0) : Tally n := by
  intro scheduler
  rw [counts, tally scheduler, tasks, countP_setPhase phase found (Task.ran_live live),
    standing.countP_ran persists]

theorem uncounted (tally : Tally m) (standing : Standing history m) (persists : Persists m n)
    {id : TaskId} {task : Task σ} {phase : Phase} (found : m.tasks[id]? = some task)
    (live : task.phase ≠ .ended) (tasks : n.tasks = (m.setPhase id phase).tasks)
    (idle : ∀ scheduler, Task.ran scheduler n.toWorld { task with phase } = false)
    (counts : ∀ scheduler, (n.toWorld.scheduler scheduler).stats.continuations =
      (m.toWorld.scheduler scheduler).stats.continuations) : Tally n := by
  apply tally.setPhase standing persists found live tasks
  intro scheduler
  rw [idle scheduler]
  exact counts scheduler

end Tally

theorem ran_ended {w : World} {task : Task σ} {scheduler : SchedulerId} {source target : CellId}
    {body : Value → Program σ} (job : task.job = .continuation (some scheduler) source target body)
    (other : SchedulerId) :
    Task.ran other w { task with phase := .ended } = (scheduler == other && w.isResolved source) := by
  simp [Task.ran, Job.counts, job]

theorem Move.size_schedulers {m n : Machine σ} {call : Option (Call σ)} (move : Move m call n) :
    m.schedulers.size ≤ n.schedulers.size := by
  have updated (m : Machine σ) (scheduler : SchedulerId) (table : TimerTable) :
      m.schedulers.size ≤ (m.setScheduler scheduler table).schedulers.size := by
    simp [setScheduler]
  have settled (m : Machine σ) (cell : CellId) (state : CellState) :
      m.schedulers.size ≤ (m.settle cell state).schedulers.size :=
    Nat.le_of_eq (congrArg Array.size (schedulers_settle m cell state).symm)
  cases move with
  | quiet | function | delay | attach | refuse | create | skip | sleep | stale | wait | drop | elapse |
    startBody => exact Nat.le_refl _
  | scheduler => simp
  | reserve | timeout | countedDelay | clearGone | fireCallback | startCounted => exact updated m _ _
  | clear scheduler id task table =>
    rw [schedulers_cancel]
    exact updated m scheduler table
  | fireDelay id rest task scheduler timer duration target value table =>
    rw [schedulers_settle]
    exact updated m scheduler table
  | settle cell state => exact settled m cell state
  | conclude source target outcome => exact settled { m with focus := .idle } target _
  | finishDelay id rest task duration target value =>
    exact settled ((m.lastTurn id rest).enter (.delay target m.now)) target _
  | dropOwing id rest task target => exact settled (m.lastTurn id rest) target _

def Attached (history : List (Record σ)) (m : Machine σ) : Prop :=
  ∀ time scheduler source body handle,
    ⟨time, .attach (some scheduler) source body handle⟩ ∈ history → scheduler < m.schedulers.size

theorem Attached.invariant : Invariant (σ := σ) (fun _ _ => True) Attached where
  alike {_ m n} alike attached := by
    intro time scheduler source body handle member
    rw [alike.schedulers]
    exact attached time scheduler source body handle member
  move := by
    intro history m n call _ move attached time scheduler source body handle member
    rcases List.mem_append.mp member with new | old
    · obtain ⟨made, same, record⟩ := Option.map_eq_some_iff.mp (Option.mem_toList.mp new)
      subst same
      cases record
      cases move with
      | attach counter source body known inside => exact known scheduler rfl
    · exact Nat.lt_of_lt_of_le (attached time scheduler source body handle old) move.size_schedulers

structure Countable (history : List (Record σ)) (m : Machine σ) : Prop where
  standing : Standing history m
  owing : Owing m
  filed : Filed history m
  attached : Attached history m

theorem Countable.known {history : List (Record σ)} {m : Machine σ} (countable : Countable history m)
    {id : TaskId} {task : Task σ} (found : m.tasks[id]? = some task) {scheduler : SchedulerId}
    {source target : CellId} {body : Value → Program σ}
    (job : task.job = .continuation (some scheduler) source target body) :
    scheduler < m.schedulers.size := by
  obtain ⟨⟨time, call⟩, member, starts, _⟩ := countable.filed.record found
  rw [job] at starts
  cases call with
  | attach counter awaited next handle =>
    cases starts
    exact countable.attached time scheduler source body target member
  | timeout | delay | countedDelay | clear | answer => cases starts

theorem Tally.invariant : Invariant (σ := σ) Countable fun _ m => Tally m where
  alike {_ m n} alike tally := by
    refine tally.same alike.tasks (fun scheduler task _ => ?_) fun scheduler => ?_
    · simp only [Task.ran, Job.counts, World.isResolved, alike.states]
    · simp only [World.scheduler, alike.schedulers]
  move := by
    intro history m n call countable move tally
    have standing := countable.standing
    have persists := move.persists
    cases move with
    | quiet | refuse | function | create | skip | elapse =>
      exact tally.quiet standing persists rfl fun _ => rfl
    | scheduler =>
      apply tally.quiet standing persists rfl
      intro scheduler
      rw [scheduler_push]
    | reserve scheduler known =>
      exact tally.quiet standing persists rfl (continuations_setScheduler known rfl rfl)
    | timeout scheduler duration callback known =>
      exact tally.spawn standing persists _ rfl (continuations_setScheduler known rfl rfl)
    | delay | attach => exact tally.spawn standing persists _ rfl fun _ => rfl
    | countedDelay scheduler duration value known =>
      exact tally.spawn standing persists _ rfl (continuations_setScheduler known rfl rfl)
    | clear scheduler timer task table held live =>
      obtain ⟨older, _, _, found, _, awake, _⟩ :=
        standing.held scheduler timer task (clear?_pending held).1
      refine tally.uncounted standing persists found awake (tasks_cancel _ _)
        (fun _ => Task.ran_live (by simp)) ?_
      exact continuations_setScheduler (known_of_clear held) (schedulers_cancel _ _)
        (continuations_clear? held)
    | clearGone scheduler timer task table held =>
      exact tally.quiet standing persists rfl
        (continuations_setScheduler (known_of_clear held) rfl (continuations_clear? held))
    | settle | conclude =>
      apply tally.quiet standing persists (tasks_settle _ _ _)
      intro scheduler
      rw [scheduler_settle]
    | sleep id rest task duration awake =>
      exact tally.uncounted standing persists awake.found awake.live rfl
        (fun _ => Task.ran_live (by simp)) fun _ => rfl
    | wait id rest task counter source target body writer awake =>
      exact tally.uncounted standing persists awake.found awake.live rfl
        (fun _ => Task.ran_live (by simp)) fun _ => rfl
    | stale id rest task scheduler timer duration effect awake job =>
      exact tally.uncounted standing persists awake.found awake.live rfl
        (fun _ => Task.ran_uncounted (by simp [job])) fun _ => rfl
    | fireCallback id rest task scheduler timer duration callback table awake job due fired =>
      exact tally.uncounted standing persists awake.found awake.live rfl
        (fun _ => Task.ran_uncounted (by simp [job]))
        (continuations_setScheduler (known_of_fire fired) rfl (continuations_fire? fired))
    | fireDelay id rest task scheduler timer duration target value table awake job due fired =>
      exact tally.uncounted standing persists awake.found awake.live (tasks_settle _ _ _)
        (fun _ => Task.ran_uncounted (by simp [job]))
        (continuations_setScheduler (known_of_fire fired) (schedulers_settle _ _ _)
          (continuations_fire? fired))
    | finishDelay id rest task duration target value awake job =>
      refine tally.uncounted standing persists awake.found awake.live (tasks_settle _ _ _)
        (fun _ => Task.ran_uncounted (by simp [job])) fun scheduler => ?_
      rw [scheduler_settle]
      rfl
    | startBody id rest task source target body value time awake job =>
      exact tally.uncounted standing persists awake.found awake.live rfl
        (fun _ => Task.ran_uncounted (by simp [job])) fun _ => rfl
    | startCounted id rest task scheduler source target body value time awake job resolved =>
      have known := countable.known awake.found job
      have awaited := World.isResolved_of_state (persists.resolved resolved)
      apply tally.setPhase standing persists awake.found awake.live rfl
      intro other
      rw [ran_ended job other, awaited, Bool.and_true]
      have lookup := scheduler_setScheduler m scheduler other
        (m.toWorld.scheduler scheduler).countContinuation known
      apply (congrArg (fun table => table.stats.continuations) lookup).trans
      by_cases same : scheduler = other
      · subst same
        simp [TimerTable.countContinuation]
      · simp [same]
    | drop id rest task polled cancelled free =>
      refine tally.uncounted standing persists polled.found (by simp [cancelled]) rfl
        (fun _ => Task.ran_uncounted ?_) fun _ => rfl
      intro counter source target body job
      have work : task.job = .continuation (some counter) source target body := job
      rw [work] at free
      cases free
    | dropOwing id rest task target polled live reason owes =>
      refine tally.uncounted standing persists polled.found live (tasks_settle _ _ _) (fun scheduler => ?_)
        fun scheduler => ?_
      · rcases reason with cancelled | ⟨counter, source, body, job, lost⟩
        · obtain ⟨_, _, _, _, job, _⟩ := (standing.tasks id task polled.found).cancelled cancelled
          exact Task.ran_uncounted (by simp [job])
        · cases counter with
          | none => exact Task.ran_uncounted (by simp [job])
          | some counter =>
            obtain ⟨state, stored⟩ := Option.ne_none_iff_exists'.mp
              (countable.owing.sources id task polled.found (some counter) source target body job)
            obtain rfl := lost state stored
            have still := persists.abandoned stored
            rw [ran_ended job scheduler, World.isResolved, still, Bool.and_false]
      · rw [scheduler_settle]
        rfl

theorem Traced.attached {memory : σ} {script : Script σ} {attached : Bool} {history : List (Record σ)}
    {m : Machine σ} (run : Traced (Machine.start memory script attached) history m) :
    Attached history m :=
  Attached.invariant.traced run (fun _ => trivial) fun _ _ _ _ _ member => absurd member List.not_mem_nil

theorem Traced.tally {memory : σ} {script : Script σ} {attached : Bool} {history : List (Record σ)}
    {m : Machine σ} (run : Traced (Machine.start memory script attached) history m) : Tally m := by
  refine Tally.invariant.traced run (fun run => ?_) fun scheduler => ?_
  · exact ⟨run.standing, run.orderly.owing, run.filed, run.attached⟩
  · rw [scheduler_start]
    rfl

/-- Where all tasks have ended, a scheduler has run the continuations that were attached through it and
whose source was resolved. -/
theorem Tally.drained {history : List (Record σ)} {m : Machine σ} (tally : Tally m)
    (filed : Filed history m) (ended : ∀ task ∈ m.tasks.toList, task.phase = .ended)
    (scheduler : SchedulerId) : (m.toWorld.scheduler scheduler).stats.continuations =
      history.countP fun record => record.call.counts scheduler m.toWorld := by
  have started : m.tasks.toList.countP (Task.ran scheduler m.toWorld) =
      (m.tasks.toList.map fun task => (task.born, task.job)).countP fun start =>
        start.2.counts scheduler m.toWorld := by
    rw [List.countP_map]
    apply List.countP_congr
    intro task present
    simp [Task.ran, ended task present]
  rw [tally scheduler, started, filed, List.countP_filterMap, List.countP_reverse]
  apply List.countP_congr
  intro record _
  rw [Call.counts_job, Record.start?]
  cases record.call.job? <;> simp

end Machine
end RuleHost.Loop
