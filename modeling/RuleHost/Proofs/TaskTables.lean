import RuleHost.Proofs.TaskOutcomes

/-! How tasks and timer tables keep together. A step changes one task at most, and one timer in one table at
most, and these two belong to each other. -/

namespace RuleHost.Loop.Machine

variable {σ : Type}

theorem fire?_pending {table next : TimerTable} {id : TimerId} (fired : table.fire? id = some next) :
    next.pending = table.pending.erase id := by
  unfold TimerTable.fire? at fired
  split at fired
  · cases fired; rfl
  · cases fired

theorem clear?_pending {table next : TimerTable} {id : TimerId} {task : TaskId}
    (held : table.clear? id = some (task, next)) :
    table.pending.find? id = some task ∧ next.pending = table.pending.erase id := by
  obtain ⟨found, stored, same⟩ := Option.map_eq_some_iff.mp held
  cases same
  exact ⟨stored, rfl⟩

theorem find?_setScheduler {m n : Machine σ} {scheduler : SchedulerId} {table : TimerTable}
    (known : scheduler < m.schedulers.size)
    (tables : n.schedulers = (m.setScheduler scheduler table).schedulers) (other : SchedulerId)
    (timer : TimerId) : (n.toWorld.scheduler other).pending.find? timer =
      if scheduler = other then table.pending.find? timer
      else (m.toWorld.scheduler other).pending.find? timer := by
  rw [scheduler_of_tables known tables]
  split <;> rfl

theorem find?_erased {m n : Machine σ} {scheduler : SchedulerId} {timer : TimerId} {table : TimerTable}
    (known : scheduler < m.schedulers.size)
    (tables : n.schedulers = (m.setScheduler scheduler table).schedulers)
    (erased : table.pending = (m.toWorld.scheduler scheduler).pending.erase timer)
    (other : SchedulerId) (second : TimerId) (id : TaskId) :
    (n.toWorld.scheduler other).pending.find? second = some id ↔
      (m.toWorld.scheduler other).pending.find? second = some id ∧
        ¬ (scheduler = other ∧ timer = second) := by
  rw [find?_setScheduler known tables, erased, Table.find?_erase]
  by_cases same : scheduler = other
  · subst same
    by_cases twin : timer = second
    · simp [twin]
    · simp [twin]
  · simp [same]

theorem pending_countContinuation (m : Machine σ) (scheduler other : SchedulerId) :
    ((m.setScheduler scheduler (m.toWorld.scheduler scheduler).countContinuation).toWorld.scheduler
      other).pending = (m.toWorld.scheduler other).pending := by
  by_cases known : scheduler < m.schedulers.size
  · rw [scheduler_setScheduler m scheduler other _ known]
    split
    next same => subst same; rfl
    next => rfl
  · rw [setScheduler_unknown known]

theorem Accounted.keep {history after : List (Record σ)} {m n : Machine σ} {id : TaskId} {task : Task σ}
    (accounted : Accounted history m id task) (persists : Persists m n) (suffix : history <:+ after)
    (tables : ∀ scheduler timer, (m.toWorld.scheduler scheduler).pending.find? timer = some id →
      (n.toWorld.scheduler scheduler).pending.find? timer = some id)
    (underway : ∀ born job, Underway m born job →
      Concluded after n born job ∨ Underway n born job) : Accounted after n id task := by
  refine ⟨?_, ?_, ?_⟩
  · intro scheduler timer duration effect job live held
    exact tables scheduler timer (accounted.pending scheduler timer duration effect job live held)
  · intro phase
    obtain ⟨scheduler, timer, duration, effect, job, cleared⟩ := accounted.cancelled phase
    exact ⟨scheduler, timer, duration, effect, job,
      Nat.lt_of_lt_of_le cleared suffix.sublist.countP_le⟩
  · intro phase
    rcases accounted.ended phase with concluded | running
    · exact .inl (concluded.persists persists suffix)
    · exact underway task.born task.job running

namespace Standing

variable {history after : List (Record σ)} {m n : Machine σ}

/-- Where at most one task changes, only that one has to be accounted for again. -/
theorem change (standing : Standing history m) (persists : Persists m n) (suffix : history <:+ after)
    (changed : TaskId) (others : ∀ id, id ≠ changed → n.tasks[id]? = m.tasks[id]?)
    (here : ∀ task, n.tasks[changed]? = some task → Accounted after n changed task)
    (tables : ∀ scheduler timer id, id ≠ changed →
      ((n.toWorld.scheduler scheduler).pending.find? timer = some id ↔
        (m.toWorld.scheduler scheduler).pending.find? timer = some id))
    (held : ∀ scheduler timer, (n.toWorld.scheduler scheduler).pending.find? timer = some changed →
      Held n changed scheduler timer)
    (underway : ∀ born job, Underway m born job → Concluded after n born job ∨ Underway n born job)
    (entered : ∀ entry ∈ n.entries, entry ∈ m.entries ∨ Due n entry) : Standing after n := by
  refine ⟨?_, ?_, ?_⟩
  · intro id task found
    by_cases same : id = changed
    · subst same
      exact here task found
    · rw [others id same] at found
      refine (standing.tasks id task found).keep persists suffix ?_ underway
      exact fun scheduler timer => (tables scheduler timer id same).mpr
  · intro scheduler timer id waits
    by_cases same : id = changed
    · subst same
      exact held scheduler timer waits
    · obtain ⟨task, duration, effect, found, rest⟩ :=
        standing.held scheduler timer id ((tables scheduler timer id same).mp waits)
      exact ⟨task, duration, effect, (others id same).trans found, rest⟩
  · intro entry member
    rcases entered entry member with old | due
    · exact (standing.entered entry old).persists persists
    · exact due

theorem unknown (standing : Standing history m) {scheduler : SchedulerId} {timer : TimerId} :
    (m.toWorld.scheduler scheduler).pending.find? timer ≠ some m.tasks.size := by
  intro waits
  obtain ⟨task, _, _, found, _⟩ := standing.held scheduler timer _ waits
  exact Nat.lt_irrefl _ (Array.getElem?_eq_some_iff.mp found).1

theorem same (standing : Standing history m) (persists : Persists m n) (suffix : history <:+ after)
    (tasks : n.tasks = m.tasks)
    (tables : ∀ scheduler, (n.toWorld.scheduler scheduler).pending = (m.toWorld.scheduler scheduler).pending)
    (underway : ∀ born job, Underway m born job → Concluded after n born job ∨ Underway n born job)
    (entered : ∀ entry ∈ n.entries, entry ∈ m.entries ∨ Due n entry) : Standing after n := by
  refine standing.change persists suffix m.tasks.size (fun id _ => by rw [tasks]) ?_ ?_ ?_ underway entered
  · intro task found
    rw [tasks] at found
    exact absurd (Array.getElem?_eq_some_iff.mp found).1 (Nat.lt_irrefl _)
  · intro scheduler timer id _
    rw [tables]
  · intro scheduler timer waits
    rw [tables] at waits
    exact absurd waits standing.unknown

theorem spawn (standing : Standing history m) (persists : Persists m n) (suffix : history <:+ after)
    (job : Job σ) (tasks : n.tasks = m.tasks.push ⟨job, .fresh, m.now⟩)
    (tables : ∀ scheduler timer id, (n.toWorld.scheduler scheduler).pending.find? timer = some id ↔
      (m.toWorld.scheduler scheduler).pending.find? timer = some id ∨
        id = m.tasks.size ∧ ∃ duration effect, job = .timer scheduler timer duration effect)
    (now : n.now = m.now) (debt : n.debt? = m.debt?) (entries : n.entries = m.entries) :
    Standing after n := by
  have newest : n.tasks[m.tasks.size]? = some ⟨job, .fresh, m.now⟩ := by
    rw [tasks, Array.getElem?_push, if_pos rfl]
  refine standing.change persists suffix m.tasks.size ?_ ?_ ?_ ?_ ?_ ?_
  · intro id differ
    rw [tasks, Array.getElem?_push, if_neg differ]
  · intro task found
    obtain rfl := Option.some.inj (newest.symm.trans found)
    refine ⟨?_, by simp, by simp⟩
    intro scheduler timer duration effect same _ _
    exact (tables scheduler timer _).mpr (.inr ⟨rfl, duration, effect, same⟩)
  · intro scheduler timer id differ
    rw [tables]
    exact or_iff_left fun new => differ new.1
  · intro scheduler timer waits
    rcases (tables scheduler timer _).mp waits with old | ⟨_, duration, effect, same⟩
    · exact absurd old standing.unknown
    · exact ⟨_, duration, effect, newest, same, by simp, by simp⟩
  · exact fun born job underway => .inr (underway.persists persists now debt)
  · rw [entries]
    exact fun entry member => .inl member

theorem turn (standing : Standing history m) {id : TaskId} {rest : List TaskId} {task : Task σ}
    (awake : Awake m id rest task) {phase : Phase} (live : phase ≠ .ended) (kept : phase ≠ .cancelled) :
    Standing history ({ m with ready := rest }.setPhase id phase) := by
  have persists := persists_turn awake.toPolled awake.live phase
  have found : ({ m with ready := rest }.setPhase id phase).tasks[id]? = some { task with phase } := by
    rw [tasks_setPhase, if_pos rfl]
    exact congrArg (Option.map _) awake.found
  refine standing.change persists List.suffix_rfl id ?_ ?_ (fun _ _ _ _ => .rfl) ?_ ?_
    fun entry member => .inl member
  · intro other differ
    rw [tasks_setPhase, if_neg (Ne.symm differ)]
  · intro later stored
    obtain rfl := Option.some.inj (found.symm.trans stored)
    refine ⟨?_, fun cancelled => absurd cancelled kept, fun ended => absurd ended live⟩
    intro scheduler timer duration effect job _ _
    exact (standing.tasks id task awake.found).pending scheduler timer duration effect job awake.live
      awake.held
  · intro scheduler timer waits
    obtain ⟨older, duration, effect, stored, job, _⟩ := standing.held scheduler timer id waits
    obtain rfl := Option.some.inj (awake.found.symm.trans stored)
    exact ⟨_, duration, effect, found, job, live, kept⟩
  · exact fun born job underway => absurd underway (not_underway awake.idle)

/-- A task that has its last turn leaves something behind, and is in no table any more. -/
theorem finish (standing : Standing history m) {id : TaskId} {rest : List TaskId} {task : Task σ}
    (polled : Polled m id rest task) (persists : Persists m n)
    (tasks : n.tasks = (m.lastTurn id rest).tasks)
    (tables : ∀ scheduler timer other, other ≠ id →
      ((n.toWorld.scheduler scheduler).pending.find? timer = some other ↔
        (m.toWorld.scheduler scheduler).pending.find? timer = some other))
    (gone : ∀ scheduler timer, (n.toWorld.scheduler scheduler).pending.find? timer ≠ some id)
    (left : Concluded history n task.born task.job ∨ Underway n task.born task.job)
    (entered : ∀ entry ∈ n.entries, entry ∈ m.entries ∨ Due n entry) : Standing history n := by
  refine standing.change persists List.suffix_rfl id ?_ ?_ tables ?_ ?_ entered
  · intro other differ
    rw [tasks, Machine.lastTurn, tasks_setPhase, if_neg (Ne.symm differ)]
  · intro later stored
    rw [tasks, found_lastTurn polled] at stored
    obtain rfl := Option.some.inj stored
    exact ⟨fun _ _ _ _ _ live _ => absurd rfl live, by simp, fun _ => left⟩
  · exact fun scheduler timer waits => absurd waits (gone scheduler timer)
  · exact fun born job underway => absurd underway (not_underway polled.idle)

theorem absent (standing : Standing history m) {id : TaskId} {task : Task σ}
    (found : m.tasks[id]? = some task)
    (reason : task.phase = .cancelled ∨ ∀ scheduler timer duration effect,
      task.job ≠ .timer scheduler timer duration effect) (scheduler : SchedulerId) (timer : TimerId) :
    (m.toWorld.scheduler scheduler).pending.find? timer ≠ some id := by
  intro waits
  obtain ⟨other, duration, effect, stored, job, _, kept⟩ := standing.held scheduler timer id waits
  obtain rfl := Option.some.inj (found.symm.trans stored)
  rcases reason with cancelled | different
  · exact kept cancelled
  · exact different scheduler timer duration effect job

theorem erased (standing : Standing history m) {id : TaskId} {task : Task σ} {scheduler : SchedulerId}
    {timer : TimerId} {duration : Nat} {effect : TimerEffect σ} {table : TimerTable}
    (found : m.tasks[id]? = some task) (job : task.job = .timer scheduler timer duration effect)
    (known : scheduler < m.schedulers.size)
    (tables : n.schedulers = (m.setScheduler scheduler table).schedulers)
    (erased : table.pending = (m.toWorld.scheduler scheduler).pending.erase timer) :
    ∀ other second, (n.toWorld.scheduler other).pending.find? second ≠ some id := by
  intro other second waits
  obtain ⟨before, differ⟩ := (find?_erased known tables erased other second id).mp waits
  obtain ⟨older, _, _, stored, work, _⟩ := standing.held other second id before
  obtain rfl := Option.some.inj (found.symm.trans stored)
  cases job.symm.trans work
  exact differ ⟨rfl, rfl⟩

/-- A timer that is awake can fire, for it is in its table. -/
theorem fires (standing : Standing history m) {id : TaskId} {rest : List TaskId} {task : Task σ}
    {scheduler : SchedulerId} {timer : TimerId} {duration : Nat} {effect : TimerEffect σ}
    (awake : Awake m id rest task) (job : task.job = .timer scheduler timer duration effect) :
    (m.toWorld.scheduler scheduler).fire? timer ≠ none := by
  have waits := (standing.tasks id task awake.found).pending scheduler timer duration effect job
    awake.live awake.held
  simp [TimerTable.fire?, Table.contains_eq_isSome, waits]

theorem fire (standing : Standing history m) (punctual : Punctual m) {id : TaskId} {rest : List TaskId}
    {task : Task σ} {scheduler : SchedulerId} {timer : TimerId} {duration : Nat}
    {effect : TimerEffect σ} {table : TimerTable} (awake : Awake m id rest task)
    (job : task.job = .timer scheduler timer duration effect)
    (due : task.deadline?.getD (m.now + duration) ≤ m.now)
    (fired : (m.toWorld.scheduler scheduler).fire? timer = some table) (persists : Persists m n)
    (tasks : n.tasks = (m.lastTurn id rest).tasks)
    (tables : n.schedulers = (m.setScheduler scheduler table).schedulers)
    (entries : n.entries = .timer scheduler timer m.now :: m.entries)
    (left : m.now = task.born + duration → .timer scheduler timer (task.born + duration) ∈ n.entries →
      Concluded history n task.born task.job) : Standing history n := by
  have known := known_of_fire fired
  have erasure := fire?_pending fired
  have exact := punctual.due_exact awake (by rw [job, Job.duration?]) due
  have waits := (standing.tasks id task awake.found).pending scheduler timer duration effect job
    awake.live awake.held
  refine standing.finish awake.toPolled persists tasks ?_
    (standing.erased awake.found job known tables erasure) (.inl (left exact ?_)) ?_
  · intro other second holder differ
    rw [find?_erased known tables erasure]
    refine ⟨fun both => both.1, fun before => ⟨before, ?_⟩⟩
    rintro ⟨rfl, rfl⟩
    exact differ (Option.some.inj (before.symm.trans waits))
  · rw [entries, exact]
    exact List.mem_cons_self
  · rw [entries]
    intro entry member
    rcases List.mem_cons.mp member with rfl | old
    · have ended : n.tasks[id]? = some { task with phase := .ended } := by
        rw [tasks]
        exact found_lastTurn awake.toPolled
      exact .inr ⟨id, _, duration, effect, ended, job, exact⟩
    · exact .inl old

theorem quiet (standing : Standing history m) (persists : Persists m n) (suffix : history <:+ after)
    (tasks : n.tasks = m.tasks)
    (tables : ∀ scheduler,
      (n.toWorld.scheduler scheduler).pending = (m.toWorld.scheduler scheduler).pending)
    (now : n.now = m.now) (debt : n.debt? = m.debt?) (entries : n.entries = m.entries) :
    Standing after n := by
  refine standing.same persists suffix tasks tables ?_ ?_
  · exact fun born job underway => .inr (underway.persists persists now debt)
  · rw [entries]
    exact fun entry member => .inl member

theorem clear (standing : Standing history m) (suffix : history <:+ after) {scheduler : SchedulerId}
    {timer : TimerId} {task : TaskId} {table : TimerTable}
    (held : (m.toWorld.scheduler scheduler).clear? timer = some (task, table))
    (cleared : 0 < clearings scheduler timer after)
    (persists : Persists m ((m.setScheduler scheduler table).cancel task)) :
    Standing after ((m.setScheduler scheduler table).cancel task) := by
  obtain ⟨waits, erasure⟩ := clear?_pending held
  have known := known_of_clear held
  have tables : ((m.setScheduler scheduler table).cancel task).schedulers =
      (m.setScheduler scheduler table).schedulers := schedulers_cancel _ _
  obtain ⟨older, duration, effect, found, job, _⟩ := standing.held scheduler timer task waits
  refine standing.change persists suffix task ?_ ?_ ?_ ?_ ?_ ?_
  · intro other differ
    rw [tasks_cancel, tasks_setPhase, if_neg (Ne.symm differ)]
    rfl
  · intro later stored
    rw [tasks_cancel, tasks_setPhase, if_pos rfl] at stored
    obtain ⟨old, before, rfl⟩ := Option.map_eq_some_iff.mp stored
    obtain rfl := Option.some.inj (found.symm.trans before)
    exact ⟨fun _ _ _ _ _ _ kept => absurd rfl kept,
      fun _ => ⟨scheduler, timer, duration, effect, job, cleared⟩, by simp⟩
  · intro other second holder differ
    rw [find?_erased known tables erasure]
    refine ⟨fun both => both.1, fun before => ⟨before, ?_⟩⟩
    rintro ⟨rfl, rfl⟩
    exact differ (Option.some.inj (before.symm.trans waits))
  · intro other second
    exact fun still => absurd still (standing.erased found job known tables erasure other second)
  · have debt : ((m.setScheduler scheduler table).cancel task).debt? = m.debt? := by
      simp only [debt?, focus_cancel]
      rfl
    exact fun born job underway => .inr (underway.persists persists (now_cancel _ _) debt)
  · rw [entries_cancel]
    exact fun entry member => .inl member

end Standing

theorem find?_enrolled {history : List (Record σ)} {m n : Machine σ} (ledger : Ledger history m)
    {scheduler : SchedulerId} (known : scheduler < m.schedulers.size)
    (tables : n.schedulers = (m.setScheduler scheduler
      ((m.toWorld.scheduler scheduler).schedule m.tasks.size).2).schedulers)
    (duration : Nat) (effect : TimerEffect σ) (other : SchedulerId) (timer : TimerId) (id : TaskId) :
    (n.toWorld.scheduler other).pending.find? timer = some id ↔
      (m.toWorld.scheduler other).pending.find? timer = some id ∨
        id = m.tasks.size ∧ ∃ span action, Job.timer scheduler
          (m.toWorld.scheduler scheduler).ids.issue.1 duration effect = .timer other timer span action := by
  have absent := ((ledger scheduler).absent (ledger scheduler).fresh).1
  rw [find?_setScheduler known tables]
  by_cases same : scheduler = other
  · subst same
    rw [if_pos rfl, TimerTable.schedule, Table.find?_insert]
    by_cases twin : (m.toWorld.scheduler scheduler).ids.issue.1 = timer
    · subst twin
      rw [if_pos rfl, Table.find?_eq_none_iff.mpr absent]
      refine ⟨fun found => .inr ⟨(Option.some.inj found).symm, duration, effect, rfl⟩, ?_⟩
      rintro (missing | ⟨rfl, _⟩)
      · cases missing
      · rfl
    · rw [if_neg twin]
      refine ⟨.inl, ?_⟩
      rintro (before | ⟨_, _, _, same⟩)
      · exact before
      · cases same
        exact absurd rfl twin
  · rw [if_neg same]
    refine ⟨.inl, ?_⟩
    rintro (before | ⟨_, _, _, twin⟩)
    · exact before
    · cases twin
      exact absurd rfl same

end RuleHost.Loop.Machine
