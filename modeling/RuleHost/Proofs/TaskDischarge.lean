import RuleHost.Proofs.LoopLives
import RuleHost.Proofs.TaskTables

/-! No debt is forgotten. A task that has ended has settled what it owed, unless it is the continuation
whose program is running. A timer that waits is in its table, so that it fires when it is due. -/

namespace RuleHost.Loop

variable {σ : Type}

def Task.Pending (task : Task σ) : Prop := task.phase ≠ .ended ∧ task.phase ≠ .cancelled

namespace Machine

def Tabled (m : Machine σ) : Prop :=
  ∀ (id : TaskId) (task : Task σ) (scheduler : SchedulerId) (timer : TimerId) (duration : Nat)
    (effect : TimerEffect σ), m.tasks[id]? = some task → task.Pending →
      task.job = .timer scheduler timer duration effect →
        (m.toWorld.scheduler scheduler).pending.find? timer = some id

namespace Tabled

variable {m n : Machine σ}

theorem keep (tabled : Tabled m)
    (tasks : ∀ (id : TaskId) (later : Task σ), n.tasks[id]? = some later → later.Pending →
      ∃ old, m.tasks[id]? = some old ∧ old.Pending ∧ old.job = later.job)
    (tables : ∀ (id : TaskId) (later : Task σ), n.tasks[id]? = some later → later.Pending →
      ∀ scheduler timer, (m.toWorld.scheduler scheduler).pending.find? timer = some id →
        (n.toWorld.scheduler scheduler).pending.find? timer = some id) : Tabled n := by
  intro id later scheduler timer duration effect found pending job
  obtain ⟨old, stored, before, same⟩ := tasks id later found pending
  have held := tabled id old scheduler timer duration effect stored before (same.trans job)
  exact tables id later found pending scheduler timer held

theorem same (tabled : Tabled m) (tasks : n.tasks = m.tasks)
    (tables : ∀ scheduler, (n.toWorld.scheduler scheduler).pending =
      (m.toWorld.scheduler scheduler).pending) : Tabled n := by
  apply tabled.keep
  · rw [tasks]
    exact fun id later found pending => ⟨later, found, pending, rfl⟩
  · intro id later _ _ scheduler timer held
    rw [tables]
    exact held

theorem spawn (tabled : Tabled m) {job : Job σ}
    (other : ∀ scheduler timer duration effect, job ≠ .timer scheduler timer duration effect) :
    Tabled (m.spawn job) := by
  intro id later scheduler timer duration effect found pending work
  rcases found_spawn found with before | ⟨_, rfl⟩
  · exact tabled id later scheduler timer duration effect before pending work
  · exact absurd work (other scheduler timer duration effect)

/-- A timer that starts is given a number that no table has. -/
theorem enroll {history : List (Record σ)} (tabled : Tabled m) (ledger : Ledger history m)
    {scheduler : SchedulerId} (known : scheduler < m.schedulers.size) (duration : Nat)
    (effect : TimerEffect σ) : Tabled (m.enroll scheduler duration effect) := by
  have tables := find?_enrolled (n := m.enroll scheduler duration effect) ledger known rfl duration effect
  intro id later other timer span action found pending work
  rw [tables]
  rcases found_spawn found with before | ⟨last, rfl⟩
  · exact .inl (tabled id later other timer span action before pending work)
  · exact .inr ⟨last, span, action, work⟩

theorem setPhase (tabled : Tabled m) (id : TaskId) (phase : Phase)
    (going : ∀ task, m.tasks[id]? = some task → task.Pending)
    (tasks : n.tasks = (m.setPhase id phase).tasks)
    (tables : ∀ scheduler, (n.toWorld.scheduler scheduler).pending =
      (m.toWorld.scheduler scheduler).pending) : Tabled n := by
  apply tabled.keep
  · rw [tasks]
    intro other later found pending
    rcases found_setPhase found with ⟨rfl, old, stored, rfl⟩ | ⟨_, stored⟩
    · exact ⟨old, stored, going old stored, rfl⟩
    · exact ⟨later, stored, pending, rfl⟩
  · intro other later _ _ scheduler timer held
    rw [tables]
    exact held

/-- A task that stops to wait may take its timer out of the table. -/
theorem stop (tabled : Tabled m) (id : TaskId) {phase : Phase}
    (stopped : phase = .ended ∨ phase = .cancelled) (tasks : n.tasks = (m.setPhase id phase).tasks)
    (tables : ∀ other, other ≠ id → ∀ scheduler timer,
      (m.toWorld.scheduler scheduler).pending.find? timer = some other →
        (n.toWorld.scheduler scheduler).pending.find? timer = some other) : Tabled n := by
  have lookup (other : TaskId) (later : Task σ) (found : n.tasks[other]? = some later)
      (pending : later.Pending) : other ≠ id ∧ m.tasks[other]? = some later := by
    rw [tasks] at found
    rcases found_setPhase found with ⟨_, old, _, rfl⟩ | ⟨differ, stored⟩
    · rcases stopped with rfl | rfl
      · exact absurd rfl pending.1
      · exact absurd rfl pending.2
    · exact ⟨differ.symm, stored⟩
  apply tabled.keep
  · exact fun other later found pending => ⟨later, (lookup other later found pending).2, pending, rfl⟩
  · exact fun other later found pending => tables other (lookup other later found pending).1

/-- Where a timer leaves its table, no other task loses its own. -/
theorem erased {id : TaskId} {scheduler : SchedulerId} {timer : TimerId} {table : TimerTable}
    (known : scheduler < m.schedulers.size)
    (tables : n.schedulers = (m.setScheduler scheduler table).schedulers)
    (erasure : table.pending = (m.toWorld.scheduler scheduler).pending.erase timer)
    (holder : (m.toWorld.scheduler scheduler).pending.find? timer = some id) (other : TaskId)
    (differ : other ≠ id) (second : SchedulerId) (waits : TimerId)
    (held : (m.toWorld.scheduler second).pending.find? waits = some other) :
    (n.toWorld.scheduler second).pending.find? waits = some other := by
  rw [find?_erased known tables erasure]
  refine ⟨held, ?_⟩
  rintro ⟨rfl, rfl⟩
  exact differ (Option.some.inj (held.symm.trans holder))

theorem awake {id : TaskId} {rest : List TaskId} {task : Task σ}
    (tabled : Tabled m) (awake : Awake m id rest task) {scheduler : SchedulerId} {timer : TimerId}
    {duration : Nat} {effect : TimerEffect σ} (job : task.job = .timer scheduler timer duration effect) :
    (m.toWorld.scheduler scheduler).pending.find? timer = some id :=
  tabled id task scheduler timer duration effect awake.found ⟨awake.live, awake.held⟩ job

theorem fire (tabled : Tabled m) {id : TaskId} {rest : List TaskId} {task : Task σ}
    {scheduler : SchedulerId} {timer : TimerId} {duration : Nat} {effect : TimerEffect σ}
    {table : TimerTable} (awake : Awake m id rest task)
    (job : task.job = .timer scheduler timer duration effect)
    (fired : (m.toWorld.scheduler scheduler).fire? timer = some table)
    (tasks : n.tasks = (m.lastTurn id rest).tasks)
    (tables : n.schedulers = (m.setScheduler scheduler table).schedulers) : Tabled n :=
  tabled.stop id (.inl rfl) tasks
    (erased (known_of_fire fired) tables (fire?_pending fired) (tabled.awake awake job))

end Tabled

theorem Tabled.invariant : Invariant (σ := σ) Ledger fun _ m => Tabled m where
  alike alike tabled := by
    apply tabled.same alike.tasks
    intro scheduler
    simp only [World.scheduler, alike.schedulers]
  move := by
    intro history m n call ledger move tabled
    have settled {w : Machine σ} {cell : CellId} {state : CellState} (scheduler : SchedulerId) :
        ((w.settle cell state).toWorld.scheduler scheduler).pending =
          (w.toWorld.scheduler scheduler).pending := by rw [scheduler_settle]
    cases move with
    | quiet | refuse => exact tabled
    | function | create | skip | elapse => exact tabled.same rfl fun _ => rfl
    | scheduler =>
      refine tabled.same rfl fun scheduler => ?_
      rw [scheduler_push]
    | reserve scheduler known =>
      refine tabled.same rfl fun other => ?_
      rw [scheduler_setScheduler m scheduler other _ known]
      split
      next same => subst same; rfl
      next => rfl
    | timeout scheduler duration callback known => exact tabled.enroll ledger known duration _
    | delay => exact (tabled.same (n := (m.newCell _).2) rfl fun _ => rfl).spawn (by simp)
    | countedDelay scheduler duration value known =>
      exact (tabled.same (n := (m.newCell _).2) rfl fun _ => rfl).enroll (ledger.same rfl rfl) known
        duration _
    | attach => exact (tabled.same (n := (m.newCell _).2) rfl fun _ => rfl).spawn (by simp)
    | clear scheduler id task table held live =>
      obtain ⟨waits, erasure⟩ := clear?_pending held
      exact tabled.stop task (.inr rfl) (tasks_cancel _ _)
        (erased (known_of_clear held) (schedulers_cancel _ _) erasure waits)
    | clearGone scheduler id task table held gone =>
      obtain ⟨waits, erasure⟩ := clear?_pending held
      obtain ⟨old, found, ended⟩ := gone
      apply tabled.keep
      · exact fun _ later found pending => ⟨later, found, pending, rfl⟩
      · intro other later stored pending
        apply erased (known_of_clear held) rfl erasure waits
        rintro rfl
        obtain rfl := Option.some.inj (found.symm.trans stored)
        exact pending.1 ended
    | settle => exact tabled.same (tasks_settle _ _ _) settled
    | conclude => exact tabled.same (tasks_settle _ _ _) settled
    | sleep id rest task duration awake | wait id rest task counter source target body writer awake =>
      refine tabled.setPhase id _ (fun other stored => ?_) rfl fun _ => rfl
      obtain rfl := Option.some.inj (awake.found.symm.trans stored)
      exact ⟨awake.live, awake.held⟩
    | stale id | drop id | startBody id => exact tabled.stop id (.inl rfl) rfl fun _ _ _ _ held => held
    | startCounted id rest task scheduler =>
      refine tabled.stop id (.inl rfl) rfl fun other _ second timer held => ?_
      exact (congrArg (Table.find? · timer) (pending_countContinuation m scheduler second)).trans held
    | finishDelay id | dropOwing id =>
      refine tabled.stop id (.inl rfl) (tasks_settle _ _ _) fun other _ scheduler timer held => ?_
      rw [settled]
      exact held
    | fireCallback id rest task scheduler timer duration callback table awake job due fired =>
      exact tabled.fire awake job fired rfl rfl
    | fireDelay id rest task scheduler timer duration target value table awake job due fired =>
      exact tabled.fire awake job fired (tasks_settle _ _ _) (schedulers_settle _ _ _)

theorem Tabled.lasting : Lasting (σ := σ) Ledger fun _ m => Tabled m where
  toInvariant := Tabled.invariant
  leave := by
    intro history m _ _ _ id task scheduler timer duration effect found pending
    obtain ⟨old, _, rfl⟩ := found_tearDown found
    exact absurd rfl pending.1

theorem Life.tabled {history : List (Record σ)} {m : Machine σ} (life : Life history m) : Tabled m := by
  refine Tabled.lasting.life (fun memory script attached => ?_) Life.ledger life
  simp [Tabled, Machine.start]

def Settled (m : Machine σ) (cell : CellId) : Prop :=
  ∃ state, m.toWorld.state? cell = some state ∧ ∀ writer, state ≠ .pending writer

theorem Settled.persists {m n : Machine σ} {cell : CellId} (settled : Settled m cell)
    (persists : Persists m n) : Settled n cell := by
  obtain ⟨state, stored, final⟩ := settled
  exact ⟨state, persists.settled cell state stored final, final⟩

theorem Settled.of_settle {m : Machine σ} {cell : CellId} {writer : Writer}
    (pending : m.toWorld.state? cell = some (.pending writer)) {state : CellState}
    (final : ∀ writer, state ≠ .pending writer) : Settled (m.settle cell state) cell := by
  refine ⟨state, ?_, final⟩
  rw [state?_settle m cell cell state writer pending, if_pos rfl]

def Discharged (m : Machine σ) : Prop :=
  ∀ (id : TaskId) (task : Task σ) target, m.tasks[id]? = some task → task.phase = .ended →
    task.job.target? = some target → Settled m target ∨ m.debt? = some target

namespace Discharged

variable {m n : Machine σ}

theorem change (discharged : Discharged m) (persists : Persists m n)
    (tasks : ∀ (id : TaskId) (later : Task σ), n.tasks[id]? = some later → later.phase = .ended →
      (∃ old, m.tasks[id]? = some old ∧ old.phase = .ended) ∨
        ∀ target, later.job.target? = some target → Settled n target ∨ n.debt? = some target)
    (debt : ∀ target, m.debt? = some target → Settled n target ∨ n.debt? = some target) :
    Discharged n := by
  intro id later target found ended owes
  rcases tasks id later found ended with ⟨old, stored, finished⟩ | left
  · obtain ⟨same, again, _, job, _⟩ := persists.tasks id old stored
    obtain rfl := Option.some.inj (found.symm.trans again)
    rcases discharged id old target stored finished (job ▸ owes) with settled | owed
    · exact .inl (settled.persists persists)
    · exact debt target owed
  · exact left target owes

theorem same (discharged : Discharged m) (persists : Persists m n) (tasks : n.tasks = m.tasks)
    (debt : n.debt? = m.debt?) : Discharged n := by
  apply discharged.change persists
  · rw [tasks]
    exact fun id later found ended => .inl ⟨later, found, ended⟩
  · rw [debt]
    exact fun target owed => .inr owed

theorem spawn (discharged : Discharged m) (persists : Persists m n) {w : Machine σ} {job : Job σ}
    (tasks : n.tasks = (w.spawn job).tasks) (before : w.tasks = m.tasks) (debt : n.debt? = m.debt?) :
    Discharged n := by
  apply discharged.change persists
  · rw [tasks]
    intro id later found ended
    rcases found_spawn found with old | ⟨_, rfl⟩
    · exact .inl ⟨later, before ▸ old, ended⟩
    · cases ended
  · rw [debt]
    exact fun target owed => .inr owed

theorem setPhase (discharged : Discharged m) (persists : Persists m n) {id : TaskId} {phase : Phase}
    (going : phase ≠ .ended) (tasks : n.tasks = (m.setPhase id phase).tasks)
    (debt : n.debt? = m.debt?) : Discharged n := by
  apply discharged.change persists
  · rw [tasks]
    intro other later found ended
    rcases found_setPhase found with ⟨_, _, _, rfl⟩ | ⟨_, stored⟩
    · exact absurd ended going
    · exact .inl ⟨later, stored, ended⟩
  · rw [debt]
    exact fun target owed => .inr owed

/-- A task that ends has to see to what it owes. -/
theorem finish (discharged : Discharged m) (persists : Persists m n) {id : TaskId} {rest : List TaskId}
    {task : Task σ} (polled : Polled m id rest task) (tasks : n.tasks = (m.lastTurn id rest).tasks)
    (left : ∀ target, task.job.target? = some target → Settled n target ∨ n.debt? = some target) :
    Discharged n := by
  apply discharged.change persists
  · rw [tasks]
    intro other later found ended
    rcases found_setPhase found with ⟨rfl, old, stored, rfl⟩ | ⟨_, stored⟩
    · obtain rfl := Option.some.inj (polled.found.symm.trans stored)
      exact .inr left
    · exact .inl ⟨later, stored, ended⟩
  · exact fun target owed => absurd owed (not_owed polled.idle target)

end Discharged

theorem Discharged.invariant :
    Invariant (σ := σ) (fun _ m => Owing m ∧ Tabled m) fun _ m => Discharged m where
  alike alike discharged := discharged.same alike.persists alike.tasks alike.debt
  move := by
    rintro history m n call ⟨owing, tabled⟩ move discharged
    have persists := move.persists
    have settles {w : Machine σ} {id : TaskId} {task : Task σ} {cell : CellId} {state : CellState}
        (found : m.tasks[id]? = some task) (live : task.phase ≠ .ended)
        (owes : task.job.target? = some cell) (cells : w.cells = m.cells)
        (final : ∀ writer, state ≠ .pending writer) : ∀ target, task.job.target? = some target →
          Settled (w.settle cell state) target ∨ (w.settle cell state).debt? = some target := by
      intro target same
      obtain rfl := Option.some.inj (owes.symm.trans same)
      have pending : w.toWorld.state? cell = some (.pending .task) := by
        have before := owing.live id task cell found live owes
        unfold World.state? at before ⊢
        rw [cells]
        exact before
      exact .inl (.of_settle pending final)
    cases move with
    | quiet | function | scheduler | reserve | refuse | create | clearGone | skip | elapse =>
      exact discharged.same persists rfl rfl
    | settle => exact discharged.same persists (tasks_settle _ _ _) (by simp only [debt?, focus_settle])
    | timeout | delay | countedDelay | attach => exact discharged.spawn persists rfl rfl rfl
    | clear scheduler id task table =>
      refine discharged.setPhase persists (by simp) (tasks_cancel _ _) ?_
      simp only [debt?, focus_cancel]
      rfl
    | sleep => exact discharged.setPhase persists (by simp) rfl rfl
    | wait => exact discharged.setPhase persists (by simp) rfl rfl
    | conclude source target outcome running =>
      have owed : m.debt? = some target := by simp only [debt?, running]
      apply discharged.change persists
      · rw [tasks_settle]
        exact fun id later found ended => .inl ⟨later, found, ended⟩
      · intro other same
        obtain rfl := Option.some.inj (owed.symm.trans same)
        have pending : { m with focus := .idle }.toWorld.state? target = some (.pending .task) :=
          (owing.debt target owed).1
        exact .inl (.of_settle pending (CellState.ofOutcome_ne_pending _ _))
    | stale id rest task scheduler timer duration effect awake job absent =>
      have held := tabled.awake awake job
      simp [TimerTable.fire?, Table.contains_eq_isSome, held] at absent
    | fireCallback id rest task scheduler timer duration callback table awake job =>
      exact discharged.finish persists awake.toPolled rfl (by simp [job, Job.target?])
    | fireDelay id rest task scheduler timer duration target value table awake job =>
      refine discharged.finish persists awake.toPolled (tasks_settle _ _ _) ?_
      exact settles awake.found awake.live (by simp only [job, Job.target?]) rfl (by simp)
    | finishDelay id rest task duration target value awake job =>
      refine discharged.finish persists awake.toPolled (tasks_settle _ _ _) ?_
      exact settles awake.found awake.live (by simp only [job, Job.target?]) rfl (by simp)
    | dropOwing id rest task target polled live reason owes =>
      refine discharged.finish persists polled (tasks_settle _ _ _) ?_
      exact settles polled.found live owes rfl (by simp)
    | startBody id rest task source target body value time awake job =>
      refine discharged.finish persists awake.toPolled rfl fun owed owes => .inr ?_
      rw [job] at owes
      exact owes
    | startCounted id rest task scheduler source target body value time awake job =>
      refine discharged.finish persists awake.toPolled rfl fun owed owes => .inr ?_
      rw [job] at owes
      exact owes
    | drop id rest task polled cancelled free =>
      exact discharged.finish persists polled rfl (by simp [free])

/-- The tasks of a loop that is taken away lose what they owe. -/
theorem Discharged.lasting :
    Lasting (σ := σ) (fun _ m => Owing m ∧ Tabled m) fun _ m => Discharged m where
  toInvariant := Discharged.invariant
  leave := by
    rintro history m ⟨owing, _⟩ idle discharged id task target found ended owes
    obtain ⟨old, stored, rfl⟩ := found_tearDown found
    by_cases live : old.phase = .ended
    · rcases discharged id old target stored live owes with settled | owed
      · exact .inl (settled.persists (persists_tearDown owing idle))
      · exact absurd owed (not_owed idle target)
    · exact .inl ⟨.abandoned, state?_tearDown_owed owing idle stored live owes, by simp⟩

theorem Life.discharged {history : List (Record σ)} {m : Machine σ} (life : Life history m) :
    Discharged m := by
  refine Discharged.lasting.life (fun memory script attached => ?_) ?_ life
  · simp [Discharged, Machine.start]
  · exact fun life => ⟨life.owing, life.tabled⟩

end Machine
end RuleHost.Loop
