import RuleHost.Proofs.TaskDischarge
import RuleHost.Proofs.TaskFates

/-! What becomes of the tasks that wait at some moment of a life, while their loop goes on. A timer table
names the task of each of its timers, so a task is cancelled only by clearing its own timer. Any other task
has done what it is for once its time is over. -/

namespace RuleHost.Loop.Machine

variable {σ : Type}

def Named (m : Machine σ) : Prop :=
  ∀ scheduler timer id, (m.toWorld.scheduler scheduler).pending.find? timer = some id →
    ∃ (task : Task σ) (duration : Nat) (effect : TimerEffect σ), m.tasks[id]? = some task ∧
      task.job = .timer scheduler timer duration effect

namespace Named

variable {m n : Machine σ}

theorem keep (named : Named m) (persists : Persists m n)
    (tables : ∀ scheduler timer id, (n.toWorld.scheduler scheduler).pending.find? timer = some id →
      (m.toWorld.scheduler scheduler).pending.find? timer = some id) : Named n := by
  intro scheduler timer id held
  obtain ⟨task, duration, effect, found, job⟩ := named scheduler timer id (tables scheduler timer id held)
  obtain ⟨later, stored, _, same, _⟩ := persists.tasks id task found
  exact ⟨later, duration, effect, stored, same.trans job⟩

theorem same (named : Named m) (persists : Persists m n)
    (tables : ∀ scheduler, (n.toWorld.scheduler scheduler).pending =
      (m.toWorld.scheduler scheduler).pending) : Named n := by
  refine named.keep persists fun scheduler timer id held => ?_
  rw [← tables]
  exact held

theorem enroll {history : List (Record σ)} (named : Named m) (ledger : Ledger history m)
    {scheduler : SchedulerId} (known : scheduler < m.schedulers.size) (duration : Nat)
    (effect : TimerEffect σ) : Named (m.enroll scheduler duration effect) := by
  have tables := find?_enrolled (n := m.enroll scheduler duration effect) ledger known rfl duration effect
  intro other timer id held
  rcases (tables other timer id).mp held with before | ⟨rfl, span, action, job⟩
  · obtain ⟨task, span, action, found, job⟩ := named other timer id before
    obtain ⟨later, stored, _, same, _⟩ := (persists_enroll m scheduler duration effect).tasks id task found
    exact ⟨later, span, action, stored, same.trans job⟩
  · refine ⟨⟨_, .fresh, m.now⟩, span, action, ?_, job⟩
    simp only [Machine.enroll, Machine.spawn, setScheduler, Array.getElem?_push, ite_true]

theorem erased (named : Named m) (persists : Persists m n) {scheduler : SchedulerId} {timer : TimerId}
    {table : TimerTable} (known : scheduler < m.schedulers.size)
    (tables : n.schedulers = (m.setScheduler scheduler table).schedulers)
    (erasure : table.pending = (m.toWorld.scheduler scheduler).pending.erase timer) : Named n :=
  named.keep persists fun other second id held => ((find?_erased known tables erasure other second id).mp held).1

end Named

theorem Named.invariant : Invariant (σ := σ) Life fun _ m => Named m where
  alike alike named := by
    apply named.same alike.persists
    intro scheduler
    simp only [World.scheduler, alike.schedulers]
  move := by
    intro history m n call life move named
    have persists := move.persists
    have settled {w : Machine σ} {cell : CellId} {state : CellState} (scheduler : SchedulerId) :
        ((w.settle cell state).toWorld.scheduler scheduler).pending =
          (w.toWorld.scheduler scheduler).pending := by rw [scheduler_settle]
    cases move with
    | quiet | refuse | function | create | skip | elapse | sleep | wait | stale | drop | startBody | delay
    | attach => exact named.same persists fun _ => rfl
    | settle | conclude | finishDelay | dropOwing => exact named.same persists settled
    | scheduler =>
      refine named.same persists fun scheduler => ?_
      rw [scheduler_push]
    | reserve scheduler known =>
      refine named.same persists fun other => ?_
      rw [scheduler_setScheduler m scheduler other _ known]
      split
      next same => subst same; rfl
      next => rfl
    | timeout scheduler duration callback known => exact named.enroll life.ledger known duration _
    | countedDelay scheduler duration value known =>
      have opened : Named (m.newCell (.pending .task)).2 := named.same (persists_newCell m _) fun _ => rfl
      exact opened.enroll (life.ledger.same rfl rfl) known duration _
    | clear scheduler timer task table held =>
      exact named.erased persists (known_of_clear held) (schedulers_cancel _ _) (clear?_pending held).2
    | clearGone scheduler timer task table held =>
      exact named.erased persists (known_of_clear held) rfl (clear?_pending held).2
    | fireCallback id rest task scheduler timer duration callback table awake job due fired =>
      exact named.erased persists (known_of_fire fired) rfl (fire?_pending fired)
    | fireDelay id rest task scheduler timer duration target value table awake job due fired =>
      exact named.erased persists (known_of_fire fired) (schedulers_settle _ _ _) (fire?_pending fired)
    | startCounted id rest task scheduler =>
      refine named.same persists fun other => ?_
      exact pending_countContinuation m scheduler other

theorem Named.lasting : Lasting (σ := σ) Life fun _ m => Named m where
  toInvariant := Named.invariant
  leave life idle named := named.same (persists_tearDown life.owing idle) fun scheduler => by
    rw [scheduler_tearDown]

theorem Life.named {history : List (Record σ)} {m : Machine σ} (life : Life history m) : Named m := by
  refine Named.lasting.life (fun memory script attached => ?_) (fun life => life) life
  intro scheduler timer id held
  rw [scheduler_start] at held
  cases held

/-- What has become of a task that waited. -/
inductive Fate (history : List (Record σ)) (m : Machine σ) (id : TaskId) (born : Nat) (job : Job σ) :
    Prop where
  | waits (task : Task σ) (found : m.tasks[id]? = some task) (pending : task.Pending)
      (since : task.born = born) (same : task.job = job)
  | runs (underway : Underway m born job)
  | done (concluded : Concluded history m born job)
  | cleared (scheduler : SchedulerId) (timer : TimerId) (duration : Nat) (effect : TimerEffect σ)
      (same : job = .timer scheduler timer duration effect) (taken : 0 < clearings scheduler timer history)

section Fates

variable {history past : List (Record σ)} {m n : Machine σ} {call : Option (Call σ)}

/-- A program that runs goes on, or has answered. -/
theorem Underway.move {born : Nat} {job : Job σ} (underway : Underway m born job) (owing : Owing m)
    (move : Move m call n) : Concluded (m.noted call ++ history) n born job ∨ Underway n born job := by
  have persists := move.persists
  have settled {w : Machine σ} {cell : CellId} {state : CellState} :
      (w.settle cell state).debt? = w.debt? := by simp only [debt?, focus_settle]
  cases move with
  | quiet | refuse | function | scheduler | reserve | timeout | delay | countedDelay | attach | clearGone
  | create | skip | sleep | stale | wait | drop | fireCallback =>
    exact .inr (underway.persists persists rfl rfl)
  | settle | fireDelay | finishDelay | dropOwing =>
    exact .inr (underway.persists persists (now_settle _ _ _) settled)
  | clear scheduler timer task table =>
    refine .inr (underway.persists persists (now_cancel _ _) ?_)
    simp only [debt?, focus_cancel]
    rfl
  | conclude source target outcome running =>
    have owed : m.debt? = some target := by simp only [debt?, running]
    exact .inl (underway.conclude owing owed List.mem_cons_self persists)
  | startBody id rest task source target body value time awake => exact absurd underway (not_underway awake.idle)
  | startCounted id rest task scheduler source target body value time awake =>
    exact absurd underway (not_underway awake.idle)
  | elapse time idle => exact absurd underway (not_underway idle)

/-- What one move makes of a task that waits. -/
theorem Move.fate (move : Move m call n) (life : Life past m) {id : TaskId} {task : Task σ}
    (found : m.tasks[id]? = some task) (pending : task.Pending) :
    Fate (m.noted call ++ history) n id task.born task.job := by
  have persists := move.persists
  have owing := life.owing
  have stays (kept : ∀ later, n.tasks[id]? = some later → later.Pending) :
      Fate (m.noted call ++ history) n id task.born task.job := by
    obtain ⟨later, stored, born, job, _⟩ := persists.tasks id task found
    exact .waits later stored (kept later stored) born job
  have same (tasks : n.tasks = m.tasks) : Fate (m.noted call ++ history) n id task.born task.job := by
    refine stays fun later stored => ?_
    rw [tasks, found] at stored
    exact Option.some.inj stored ▸ pending
  have spawned {w : Machine σ} {job : Job σ} (before : w.tasks = m.tasks) (tasks : n.tasks = (w.spawn job).tasks) :
      Fate (m.noted call ++ history) n id task.born task.job := by
    refine stays fun later stored => ?_
    rw [tasks] at stored
    rcases found_spawn stored with old | ⟨last, _⟩
    · rw [before, found] at old
      exact Option.some.inj old ▸ pending
    · have inside := (Array.getElem?_eq_some_iff.mp found).1
      rw [last, before] at inside
      exact absurd inside (Nat.lt_irrefl _)
  have other {turn : TaskId} {phase : Phase} (differ : turn ≠ id)
      (tasks : n.tasks = (m.setPhase turn phase).tasks) :
      Fate (m.noted call ++ history) n id task.born task.job := by
    refine stays fun later stored => ?_
    rw [tasks, tasks_setPhase, if_neg differ, found] at stored
    exact Option.some.inj stored ▸ pending
  have goes {turn : TaskId} {phase : Phase} (going : phase ≠ .ended ∧ phase ≠ .cancelled)
      (tasks : n.tasks = (m.setPhase turn phase).tasks) :
      Fate (m.noted call ++ history) n id task.born task.job := by
    refine stays fun later stored => ?_
    rw [tasks] at stored
    rcases found_setPhase stored with ⟨_, _, _, rfl⟩ | ⟨_, old⟩
    · exact going
    · rw [found] at old
      exact Option.some.inj old ▸ pending
  have ends {turn : TaskId} {rest : List TaskId} {second : Task σ} (polled : Polled m turn rest second)
      (tasks : n.tasks = (m.lastTurn turn rest).tasks)
      (here : turn = id → second = task → Fate (m.noted call ++ history) n id task.born task.job) :
      Fate (m.noted call ++ history) n id task.born task.job := by
    by_cases mine : turn = id
    · refine here mine ?_
      subst mine
      exact Option.some.inj (polled.found.symm.trans found)
    · exact other mine tasks
  have begins {turn : TaskId} {rest : List TaskId} {second : Task σ} {counter : Option SchedulerId}
      {source target : CellId} {body : Value → Program σ} {value : Value} {time : Nat}
      (awake : Awake m turn rest second) (job : second.job = .continuation counter source target body)
      (resolved : m.toWorld.state? source = some (.resolved value time))
      (tasks : n.tasks = (m.lastTurn turn rest).tasks) (now : n.now = m.now) (debt : n.debt? = some target)
      (entries : n.entries = .continuation source target value m.now :: m.entries) :
      Fate (m.noted call ++ history) n id task.born task.job := by
    refine ends awake.toPolled tasks ?_
    rintro - rfl
    exact .runs (.begin life.punctual awake job resolved persists now debt entries)
  cases move with
  | quiet | refuse | function | scheduler | reserve | clearGone | create | skip | elapse => exact same rfl
  | settle | conclude => exact same (tasks_settle _ _ _)
  | timeout | delay | countedDelay | attach => exact spawned rfl rfl
  | clear scheduler timer holder table held =>
    by_cases mine : holder = id
    · subst mine
      obtain ⟨second, duration, effect, stored, job⟩ := life.named _ _ _ (clear?_pending held).1
      obtain rfl := Option.some.inj (found.symm.trans stored)
      exact .cleared scheduler timer duration effect job (by simp [noted, clearings, Call.clears])
    · exact other mine (tasks_cancel _ _)
  | sleep turn | wait turn => exact goes (by simp) rfl
  | stale turn rest second scheduler timer duration effect awake job absent =>
    have held := life.tabled.awake awake job
    simp [TimerTable.fire?, Table.contains_eq_isSome, held] at absent
  | fireCallback turn rest second scheduler timer duration callback table awake job due =>
    refine ends awake.toPolled rfl ?_
    rintro - rfl
    have exact := life.punctual.due_exact awake (by rw [job, Job.duration?]) due
    rw [job]
    refine .done (.called ?_)
    rw [← exact]
    exact List.mem_cons_self
  | fireDelay turn rest second scheduler timer duration target value table awake job due =>
    refine ends awake.toPolled (tasks_settle _ _ _) ?_
    rintro - rfl
    exact .done (.fireDelay life.punctual owing awake job due table)
  | finishDelay turn rest second duration target value awake job due =>
    refine ends awake.toPolled (tasks_settle _ _ _) ?_
    rintro - rfl
    exact .done (.finishDelay life.punctual owing awake job due)
  | startBody turn rest second source target body value time awake job resolved =>
    exact begins awake job resolved rfl rfl rfl rfl
  | startCounted turn rest second scheduler source target body value time awake job resolved =>
    exact begins awake job resolved rfl rfl rfl rfl
  | drop turn rest second polled cancelled =>
    refine ends polled rfl ?_
    rintro - rfl
    exact absurd cancelled pending.2
  | dropOwing turn rest second target polled live reason owes =>
    refine ends polled (tasks_settle _ _ _) ?_
    rintro - rfl
    rcases reason with cancelled | ⟨counter, source, body, job, lost⟩
    · exact absurd cancelled pending.2
    · obtain ⟨state, stored⟩ := Option.ne_none_iff_exists'.mp
        (owing.sources turn second polled.found counter source target body job)
      obtain rfl := lost state stored
      have left := owing.settled (n := m.lastTurn turn rest) polled.found live owes (fun _ => rfl) .abandoned
      rw [job]
      exact .done (.lost (persists.abandoned stored) left)

theorem Fate.move {id : TaskId} {born : Nat} {job : Job σ} (fate : Fate history m id born job)
    (life : Life past m) (move : Move m call n) : Fate (m.noted call ++ history) n id born job := by
  have suffix : history <:+ m.noted call ++ history := List.suffix_append _ _
  cases fate with
  | waits task found pending since same =>
    subst since same
    exact move.fate life found pending
  | runs underway =>
    rcases underway.move life.owing move with concluded | running
    · exact .done concluded
    · exact .runs running
  | done concluded => exact .done (concluded.persists move.persists suffix)
  | cleared scheduler timer duration effect same taken =>
    exact .cleared scheduler timer duration effect same (Nat.lt_of_lt_of_le taken suffix.sublist.countP_le)

theorem Fate.alike {id : TaskId} {born : Nat} {job : Job σ} (fate : Fate history m id born job)
    (alike : Alike m n) : Fate history n id born job := by
  cases fate with
  | waits task found pending since same => exact .waits task (alike.tasks ▸ found) pending since same
  | runs underway => exact .runs (underway.persists alike.persists alike.now alike.debt)
  | done concluded => exact .done (concluded.persists alike.persists List.suffix_rfl)
  | cleared scheduler timer duration effect same taken => exact .cleared scheduler timer duration effect same taken

theorem Fate.invariant (id : TaskId) (born : Nat) (job : Job σ) :
    Invariant (fun _ m => ∃ past, Life past m) fun history m => Fate history m id born job where
  alike alike fate := fate.alike alike
  move known move fate := by
    obtain ⟨past, life⟩ := known
    exact fate.move life move

/-- What becomes of a task that waits while its loop goes on. -/
theorem Life.fate (life : Life past m) (run : Traced m history n) {id : TaskId} {task : Task σ}
    (found : m.tasks[id]? = some task) (pending : task.Pending) :
    Fate history n id task.born task.job :=
  (Fate.invariant id task.born task.job).traced run (fun run => ⟨_, life.traced run⟩)
    (.waits task found pending rfl rfl)

/-- Everything that was to happen at a time, or before it, has happened. -/
def Past (m : Machine σ) (time : Nat) : Prop :=
  time < m.now ∨ time = m.now ∧ m.focus = .idle ∧ m.ready = []

theorem Past.le {time : Nat} (past : m.Past time) : time ≤ m.now := by
  rcases past with later | ⟨now, _⟩
  · exact Nat.le_of_lt later
  · exact Nat.le_of_eq now

/-- Nothing that is ready was to happen at a time that is over. -/
theorem Past.lt_of_ready {time : Nat} {id : TaskId} (past : m.Past time) (queued : id ∈ m.ready) :
    time < m.now := by
  rcases past with later | ⟨_, _, empty⟩
  · exact later
  · rw [empty] at queued
    cases queued

/-- A timer whose time is over has fired, unless it was cleared. -/
theorem Fate.fired {id : TaskId} {born : Nat} {scheduler : SchedulerId} {timer : TimerId} {duration : Nat}
    {effect : TimerEffect σ} (fate : Fate history m id born (.timer scheduler timer duration effect))
    (punctual : Punctual m) (past : m.Past (born + duration)) (kept : clearings scheduler timer history = 0) :
    Concluded history m born (.timer scheduler timer duration effect) := by
  cases fate with
  | done concluded => exact concluded
  | runs underway => cases underway
  | cleared _ _ _ _ same taken =>
    cases same
    exact absurd kept (Nat.ne_of_gt taken)
  | waits task found pending since same =>
    subst since
    have timely := punctual.tasks id task found
    cases phase : task.phase with
    | fresh =>
      have queued := timely.fresh phase
      have later := past.lt_of_ready queued.2
      omega
    | sleeping deadline =>
      obtain ⟨ahead, due, slept, length, exact⟩ := timely.sleeping deadline phase
      rw [same] at length
      cases length
      have reached := past.le
      have later := past.lt_of_ready (due (by omega))
      omega
    | waiting =>
      obtain ⟨_, _, _, _, job, _⟩ := timely.waiting phase
      cases same.symm.trans job
    | cancelled => exact absurd phase pending.2
    | ended => exact absurd phase pending.1

/-- A continuation has answered when the time at which it could begin is over. -/
theorem Fate.answered {id : TaskId} {born : Nat} {counter : Option SchedulerId} {source target : CellId}
    {body : Value → Program σ} (fate : Fate history m id born (.continuation counter source target body))
    (punctual : Punctual m) {value : Value} {time : Nat}
    (resolved : m.toWorld.state? source = some (.resolved value time)) (past : m.Past (max born time)) :
    Concluded history m born (.continuation counter source target body) := by
  cases fate with
  | done concluded => exact concluded
  | cleared _ _ _ _ same => cases same
  | runs underway =>
    cases underway with
    | running awaited entered owed now =>
      cases resolved.symm.trans awaited
      rcases past with later | ⟨_, idle, _⟩
      · omega
      · exact absurd owed (not_owed idle target)
  | waits task found pending since same =>
    subst since
    have timely := punctual.tasks id task found
    cases phase : task.phase with
    | fresh =>
      have queued := timely.fresh phase
      have later := past.lt_of_ready queued.2
      omega
    | sleeping deadline =>
      obtain ⟨_, _, slept, length, _⟩ := timely.sleeping deadline phase
      rw [same] at length
      cases length
    | waiting =>
      obtain ⟨_, _, _, _, job, outcome⟩ := timely.waiting phase
      cases same.symm.trans job
      rcases outcome with ⟨writer, unsettled⟩ | ⟨queued, state, stored, final⟩
      · cases resolved.symm.trans unsettled
      · obtain rfl := Option.some.inj (resolved.symm.trans stored)
        have later := past.lt_of_ready queued
        rcases final with lost | ⟨_, now⟩
        · cases lost
        · cases now
          omega
    | cancelled => exact absurd phase pending.2
    | ended => exact absurd phase pending.1

end Fates

end RuleHost.Loop.Machine
