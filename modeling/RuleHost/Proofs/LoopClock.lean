import RuleHost.Proofs.LoopSteps

/-! The clock of a loop never passes over anything that is to happen. Whoever has to act now is ready, and
the clock moves only when no one is, so that every callback is entered at its exact time. -/

namespace RuleHost.Loop

variable {σ : Type}

def Entry.time : Entry → Nat
  | .timer _ _ time => time
  | .delay _ time => time
  | .continuation _ _ _ time => time
  | .function _ _ time => time

def CellState.IsFinal (now : Nat) (state : CellState) : Prop :=
  state = .abandoned ∨ ∃ value, state = .resolved value now

theorem CellState.isFinal_ofOutcome (now : Nat) (outcome : Outcome) :
    (CellState.ofOutcome now outcome).IsFinal now := by
  cases outcome with
  | ok value => exact .inr ⟨value, rfl⟩
  | error failure => exact .inl rfl

namespace Machine

/-- A task has not missed its time. A fresh task was born just now; a sleeping one wakes as long after its
birth as its job says; one that waits for a settled value is about to have its turn. -/
structure Timely (m : Machine σ) (id : TaskId) (task : Task σ) : Prop where
  born : task.born ≤ m.now
  fresh : task.phase = .fresh → task.born = m.now ∧ id ∈ m.ready
  cancelled : task.phase = .cancelled → id ∈ m.ready
  sleeping : ∀ deadline, task.phase = .sleeping deadline → m.now ≤ deadline ∧
    (deadline = m.now → id ∈ m.ready) ∧
    ∃ duration, task.job.duration? = some duration ∧ deadline = task.born + duration
  waiting : task.phase = .waiting → ∃ counter source target body,
    task.job = .continuation counter source target body ∧
    ((∃ writer, m.toWorld.state? source = some (.pending writer)) ∨
      id ∈ m.ready ∧ ∃ state, m.toWorld.state? source = some state ∧ state.IsFinal m.now)

structure Punctual (m : Machine σ) : Prop where
  tasks : ∀ (id : TaskId) (task : Task σ), m.tasks[id]? = some task → Timely m id task
  settled : ∀ cell value time, m.toWorld.state? cell = some (.resolved value time) → time ≤ m.now
  ordered : m.entries.Pairwise fun newer older => older.time ≤ newer.time
  past : ∀ entry ∈ m.entries, entry.time ≤ m.now

theorem Timely.keep {m n : Machine σ} {id : TaskId} {task : Task σ} (timely : Timely m id task)
    (now : n.now = m.now) (ready : id ∈ m.ready → id ∈ n.ready)
    (states : ∀ cell state, m.toWorld.state? cell = some state → n.toWorld.state? cell = some state) :
    Timely n id task := by
  refine ⟨?_, ?_, ?_, ?_, ?_⟩
  · rw [now]; exact timely.born
  · rw [now]
    intro fresh
    exact ⟨(timely.fresh fresh).1, ready (timely.fresh fresh).2⟩
  · exact fun cancelled => ready (timely.cancelled cancelled)
  · rw [now]
    intro deadline sleeping
    obtain ⟨ahead, due, exact⟩ := timely.sleeping deadline sleeping
    exact ⟨ahead, fun reached => ready (due reached), exact⟩
  · rw [now]
    intro waiting
    obtain ⟨counter, source, target, body, job, pending | ⟨queued, state, stored, final⟩⟩ :=
      timely.waiting waiting
    · obtain ⟨writer, stored⟩ := pending
      exact ⟨counter, source, target, body, job, .inl ⟨writer, states _ _ stored⟩⟩
    · exact ⟨counter, source, target, body, job, .inr ⟨ready queued, state, states _ _ stored, final⟩⟩

theorem Timely.ended {m : Machine σ} {id : TaskId} {task : Task σ} (born : task.born ≤ m.now) :
    Timely m id { task with phase := .ended } :=
  ⟨born, by simp, by simp, by simp, by simp⟩

namespace Punctual

variable {m n : Machine σ}

theorem same (punctual : Punctual m) (now : n.now = m.now) (tasks : n.tasks = m.tasks)
    (states : ∀ cell, n.toWorld.state? cell = m.toWorld.state? cell) (entries : n.entries = m.entries)
    (ready : ∀ id ∈ m.ready, id ∈ n.ready) : Punctual n := by
  refine ⟨?_, ?_, ?_, ?_⟩
  · rw [tasks]
    intro id task found
    apply (punctual.tasks id task found).keep now (ready id)
    intro cell state stored
    rw [states]
    exact stored
  · intro cell value time stored
    rw [now]
    rw [states] at stored
    exact punctual.settled cell value time stored
  · rw [entries]; exact punctual.ordered
  · rw [entries, now]; exact punctual.past

theorem setScheduler (punctual : Punctual m) (id : SchedulerId) (table : TimerTable) :
    Punctual (m.setScheduler id table) :=
  punctual.same rfl rfl (fun _ => rfl) rfl fun _ member => member

theorem enter (punctual : Punctual m) {entry : Entry} (time : entry.time = m.now) :
    Punctual (m.enter entry) := by
  refine ⟨?_, punctual.settled, ?_, ?_⟩
  · intro id task found
    exact (punctual.tasks id task found).keep rfl (fun member => member) fun _ _ stored => stored
  · refine List.pairwise_cons.mpr ⟨?_, punctual.ordered⟩
    intro older member
    rw [time]
    exact punctual.past older member
  · intro other member
    rcases List.mem_cons.mp member with rfl | member
    · exact Nat.le_of_eq time
    · exact punctual.past other member

theorem spawn (punctual : Punctual m) (job : Job σ) : Punctual (m.spawn job) := by
  refine ⟨?_, punctual.settled, punctual.ordered, punctual.past⟩
  intro id task found
  rcases found_spawn found with before | ⟨rfl, rfl⟩
  · exact (punctual.tasks id task before).keep rfl (List.mem_append_left _) fun _ _ stored => stored
  · refine ⟨Nat.le_refl _, fun _ => ⟨rfl, ?_⟩, by simp, by simp, by simp⟩
    exact List.mem_append_right _ (List.mem_singleton.mpr rfl)

theorem newCell (punctual : Punctual m) {state : CellState}
    (lawful : (∃ writer, state = .pending writer) ∨ state.IsFinal m.now) :
    Punctual (m.newCell state).2 := by
  refine ⟨?_, ?_, punctual.ordered, punctual.past⟩
  · intro id task found
    refine (punctual.tasks id task found).keep rfl (fun member => member) ?_
    intro cell old stored
    rw [state?_newCell, if_neg]
    · exact stored
    · intro same
      rw [state?_eq_none_iff.mpr (Nat.le_of_eq same.symm)] at stored
      cases stored
  · intro cell value time stored
    rw [state?_newCell] at stored
    split at stored
    · rcases lawful with ⟨writer, rfl⟩ | rfl | ⟨other, rfl⟩
      · cases stored
      · cases stored
      · cases stored; exact Nat.le_refl _
    · exact punctual.settled cell value time stored

theorem settle (punctual : Punctual m) (cell : CellId) {state : CellState}
    (final : state.IsFinal m.now) : Punctual (m.settle cell state) := by
  by_cases open_ : ∃ writer, m.toWorld.state? cell = some (.pending writer)
  · obtain ⟨writer, pending⟩ := open_
    have states := fun other => state?_settle m cell other state writer pending
    refine ⟨?_, ?_, by simpa using punctual.ordered, by simpa using punctual.past⟩
    · intro id task found
      rw [tasks_settle] at found
      have timely := punctual.tasks id task found
      have queue (queued : id ∈ m.ready) : id ∈ (m.settle cell state).ready :=
        (mem_ready_settle pending).mpr (.inl queued)
      refine ⟨by simpa using timely.born, ?_, fun phase => queue (timely.cancelled phase), ?_, ?_⟩
      · rw [now_settle]
        exact fun phase => ⟨(timely.fresh phase).1, queue (timely.fresh phase).2⟩
      · rw [now_settle]
        intro deadline phase
        obtain ⟨ahead, due, exact⟩ := timely.sleeping deadline phase
        exact ⟨ahead, fun reached => queue (due reached), exact⟩
      · rw [now_settle]
        intro phase
        obtain ⟨counter, source, target, body, job, outcome⟩ := timely.waiting phase
        refine ⟨counter, source, target, body, job, ?_⟩
        rw [states]
        by_cases here : cell = source
        · subst here
          rw [if_pos rfl]
          refine .inr ⟨(mem_ready_settle pending).mpr (.inr ⟨task, found, ?_⟩), state, rfl, final⟩
          simp [Task.awaits, phase, job]
        · rw [if_neg here]
          rcases outcome with waits | ⟨queued, settled⟩
          · exact .inl waits
          · exact .inr ⟨queue queued, settled⟩
    · intro other value time stored
      rw [now_settle]
      rw [states] at stored
      split at stored
      · rcases final with rfl | ⟨settled, rfl⟩
        · cases stored
        · cases stored; exact Nat.le_refl _
      · exact punctual.settled other value time stored
  · have idle : m.settle cell state = m := by
      unfold Machine.settle
      exact if_neg fun pending => open_ (any_isPending_iff.mp pending)
    rw [idle]
    exact punctual

theorem turn (punctual : Punctual m) {id : TaskId} {rest : List TaskId} {task : Task σ} {phase : Phase}
    (polled : Polled m id rest task)
    (timely : Timely { m with ready := rest } id { task with phase }) :
    Punctual ({ m with ready := rest }.setPhase id phase) := by
  refine ⟨?_, punctual.settled, punctual.ordered, punctual.past⟩
  intro other stored found
  rcases found_setPhase found with ⟨rfl, old, before, rfl⟩ | ⟨differ, before⟩
  · obtain rfl := Option.some.inj (polled.found.symm.trans before)
    exact timely.keep rfl (fun member => member) fun _ _ kept => kept
  · refine (punctual.tasks other stored before).keep rfl ?_ fun _ _ kept => kept
    intro member
    rw [polled.queue] at member
    exact (List.mem_cons.mp member).resolve_left (Ne.symm differ)

theorem lastTurn (punctual : Punctual m) {id : TaskId} {rest : List TaskId} {task : Task σ}
    (polled : Polled m id rest task) : Punctual (m.lastTurn id rest) :=
  punctual.turn polled (.ended (punctual.tasks id task polled.found).born)

theorem cancel (punctual : Punctual m) (cancelled : TaskId) : Punctual (m.cancel cancelled) := by
  have states : ∀ cell, (m.cancel cancelled).toWorld.state? cell = m.toWorld.state? cell := by
    intro cell
    simp only [World.state?, cells_cancel]
  refine ⟨?_, ?_, by simpa using punctual.ordered, by simpa using punctual.past⟩
  · intro id task found
    rw [tasks_cancel] at found
    rcases found_setPhase found with ⟨rfl, old, stored, rfl⟩ | ⟨_, stored⟩
    · have timely := punctual.tasks cancelled old stored
      refine ⟨by simpa using timely.born, by simp, fun _ => ?_, by simp, by simp⟩
      exact mem_ready_cancel.mpr (.inr rfl)
    · refine (punctual.tasks id task stored).keep (now_cancel m cancelled)
        (fun member => mem_ready_cancel.mpr (.inl member)) ?_
      intro cell state stored
      rw [states]
      exact stored
  · intro cell value time stored
    rw [now_cancel]
    rw [states] at stored
    exact punctual.settled cell value time stored

/-- Where no task is ready, none has anything to do before the earliest deadline. -/
theorem elapse (punctual : Punctual m) {time : Nat} (empty : m.ready = [])
    (earliest : ∀ (id : TaskId) (task : Task σ), m.tasks[id]? = some task →
      ∀ deadline, task.phase = .sleeping deadline → time ≤ deadline)
    (forward : m.now < time ∨ ∃ (id : TaskId) (task : Task σ),
      m.tasks[id]? = some task ∧ task.phase = .sleeping time) :
    Punctual { m with
      now := time
      ready := m.tasksWhere fun task => task.deadline?.any (· ≤ time) } := by
  have unready : ∀ id, id ∉ m.ready := by
    intro id
    rw [empty]
    exact List.not_mem_nil
  have onward : m.now ≤ time := by
    rcases forward with later | ⟨id, task, found, phase⟩
    · exact Nat.le_of_lt later
    · exact ((punctual.tasks id task found).sleeping time phase).1
  refine ⟨?_, ?_, punctual.ordered, ?_⟩
  · intro id task found
    have timely := punctual.tasks id task found
    refine ⟨Nat.le_trans timely.born onward, ?_, ?_, ?_, ?_⟩
    · exact fun phase => absurd (timely.fresh phase).2 (unready id)
    · exact fun phase => absurd (timely.cancelled phase) (unready id)
    · intro deadline phase
      obtain ⟨_, _, exact⟩ := timely.sleeping deadline phase
      refine ⟨earliest id task found deadline phase, ?_, exact⟩
      intro reached
      refine mem_tasksWhere.mpr ⟨task, found, ?_⟩
      simp [Task.deadline?, phase, reached]
    · intro phase
      obtain ⟨counter, source, target, body, job, waits | ⟨queued, _⟩⟩ := timely.waiting phase
      · exact ⟨counter, source, target, body, job, .inl waits⟩
      · exact absurd queued (unready id)
  · intro cell value settled stored
    exact Nat.le_trans (punctual.settled cell value settled stored) onward
  · intro entry member
    exact Nat.le_trans (punctual.past entry member) onward

/-- A timer or a delay that is due has slept for exactly as long as it was to. -/
theorem due_exact (punctual : Punctual m) {id : TaskId} {rest : List TaskId} {task : Task σ}
    {duration : Nat} (awake : Awake m id rest task) (job : task.job.duration? = some duration)
    (due : task.deadline?.getD (m.now + duration) ≤ m.now) : m.now = task.born + duration := by
  have timely := punctual.tasks id task awake.found
  cases phase : task.phase with
  | fresh =>
    have born := (timely.fresh phase).1
    simp only [Task.deadline?, phase, Option.getD_none] at due
    omega
  | sleeping deadline =>
    obtain ⟨ahead, _, slept, same, exact⟩ := timely.sleeping deadline phase
    rw [job] at same
    cases same
    simp only [Task.deadline?, phase, Option.getD_some] at due
    omega
  | waiting =>
    obtain ⟨counter, source, target, body, other, _⟩ := timely.waiting phase
    simp [other, Job.duration?] at job
  | cancelled => exact absurd phase awake.held
  | ended => exact absurd phase awake.live

/-- A continuation has its turn at the later of its birth and the settling of its source. -/
theorem resolved_exact (punctual : Punctual m) {id : TaskId} {rest : List TaskId} {task : Task σ}
    {counter : Option SchedulerId} {source target : CellId} {body : Value → Program σ} {value : Value}
    {time : Nat} (awake : Awake m id rest task)
    (job : task.job = .continuation counter source target body)
    (resolved : m.toWorld.state? source = some (.resolved value time)) :
    m.now = max task.born time := by
  have timely := punctual.tasks id task awake.found
  have settled := punctual.settled source value time resolved
  cases phase : task.phase with
  | fresh =>
    have born := (timely.fresh phase).1
    omega
  | sleeping deadline =>
    obtain ⟨_, _, slept, same, _⟩ := timely.sleeping deadline phase
    simp [job, Job.duration?] at same
  | waiting =>
    obtain ⟨_, awaited, _, _, other, outcome⟩ := timely.waiting phase
    rw [job] at other
    cases other
    have born := timely.born
    rcases outcome with ⟨writer, pending⟩ | ⟨_, state, stored, final⟩
    · rw [resolved] at pending
      cases pending
    · rw [resolved] at stored
      cases stored
      rcases final with lost | ⟨_, same⟩
      · cases lost
      · cases same
        omega
  | cancelled => exact absurd phase awake.held
  | ended => exact absurd phase awake.live

theorem sleep (punctual : Punctual m) {id : TaskId} {rest : List TaskId} {task : Task σ}
    {duration : Nat} (awake : Awake m id rest task) (job : task.job.duration? = some duration)
    (early : m.now < task.deadline?.getD (m.now + duration)) :
    Punctual ({ m with ready := rest }.setPhase id
      (.sleeping (task.deadline?.getD (m.now + duration)))) := by
  have timely := punctual.tasks id task awake.found
  refine punctual.turn awake.toPolled ⟨timely.born, by simp, by simp, ?_, by simp⟩
  intro deadline same
  cases same
  refine ⟨Nat.le_of_lt early, fun reached => absurd reached (Nat.ne_of_gt early), duration, job, ?_⟩
  cases phase : task.phase with
  | fresh => simp [Task.deadline?, phase, (timely.fresh phase).1]
  | sleeping deadline =>
    obtain ⟨_, _, slept, same, exact⟩ := timely.sleeping deadline phase
    rw [job] at same
    cases same
    simpa [Task.deadline?, phase] using exact
  | waiting =>
    obtain ⟨counter, source, target, body, other, _⟩ := timely.waiting phase
    simp [other, Job.duration?] at job
  | cancelled => exact absurd phase awake.held
  | ended => exact absurd phase awake.live

end Punctual

theorem Punctual.invariant : Invariant (σ := σ) (fun _ _ => True) fun _ m => Punctual m where
  alike alike punctual := punctual.same alike.now alike.tasks alike.states alike.entries
    fun id member => (alike.ready id).mpr member
  move := by
    intro history m n call _ move punctual
    cases move with
    | quiet | refuse => exact punctual
    | function => exact punctual.enter rfl
    | scheduler | reserve | clearGone => exact punctual.same rfl rfl (fun _ => rfl) rfl fun _ member => member
    | timeout scheduler duration callback known =>
      exact (punctual.setScheduler scheduler _).spawn _
    | delay => exact (punctual.newCell (.inl ⟨_, rfl⟩)).spawn _
    | countedDelay scheduler duration value known =>
      have opened : Punctual (m.newCell (.pending .task)).2 := punctual.newCell (.inl ⟨_, rfl⟩)
      exact (opened.setScheduler scheduler _).spawn _
    | attach => exact (punctual.newCell (.inl ⟨_, rfl⟩)).spawn _
    | clear scheduler id task table held live =>
      exact (punctual.setScheduler scheduler table).cancel task
    | create state lawful =>
      apply punctual.newCell
      rcases lawful with rfl | resolved
      · exact .inl ⟨_, rfl⟩
      · exact .inr (.inr resolved)
    | settle cell state held final => exact punctual.settle cell final
    | conclude source target outcome running =>
      have idle : Punctual { m with focus := .idle } :=
        punctual.same rfl rfl (fun _ => rfl) rfl fun _ member => member
      exact idle.settle target (CellState.isFinal_ofOutcome m.now outcome)
    | skip id rest idle queue ended =>
      refine ⟨?_, punctual.settled, punctual.ordered, punctual.past⟩
      intro other task found
      have timely := punctual.tasks other task found
      by_cases same : other = id
      · subst same
        have done := ended task found
        refine ⟨timely.born, ?_, ?_, ?_, ?_⟩ <;> simp [done]
      · refine timely.keep rfl ?_ fun _ _ kept => kept
        intro member
        rw [queue] at member
        exact (List.mem_cons.mp member).resolve_left same
    | sleep id rest task duration awake job early => exact punctual.sleep awake job early
    | stale id rest task scheduler timer duration effect awake => exact punctual.lastTurn awake.toPolled
    | fireCallback id rest task scheduler timer duration callback table awake =>
      exact ((punctual.lastTurn awake.toPolled).setScheduler scheduler table).enter rfl
    | fireDelay id rest task scheduler timer duration target value table awake =>
      have fired := (punctual.lastTurn awake.toPolled).setScheduler scheduler table
      exact (fired.enter rfl).settle target (.inr ⟨value, rfl⟩)
    | finishDelay id rest task duration target value awake =>
      exact ((punctual.lastTurn awake.toPolled).enter rfl).settle target (.inr ⟨value, rfl⟩)
    | startBody id rest task source target body value time awake =>
      exact ((punctual.lastTurn awake.toPolled).enter rfl).same rfl rfl (fun _ => rfl) rfl
        fun _ member => member
    | startCounted id rest task scheduler source target body value time awake =>
      have counted := (punctual.lastTurn awake.toPolled).setScheduler scheduler
        (m.toWorld.scheduler scheduler).countContinuation
      exact (counted.enter rfl).same rfl rfl (fun _ => rfl) rfl fun _ member => member
    | wait id rest task counter source target body writer awake job pending =>
      refine punctual.turn awake.toPolled
        ⟨(punctual.tasks id task awake.found).born, by simp, by simp, by simp, fun _ => ?_⟩
      exact ⟨counter, source, target, body, job, .inl ⟨writer, pending⟩⟩
    | drop id rest task polled => exact punctual.lastTurn polled
    | dropOwing id rest task target polled => exact (punctual.lastTurn polled).settle target (.inl rfl)
    | elapse time idle empty earliest forward => exact punctual.elapse empty earliest forward

theorem Punctual.start (memory : σ) (script : Script σ) (attached : Bool) :
    Punctual (start memory script attached) := by
  refine ⟨?_, ?_, .nil, ?_⟩
  · intro id task found
    simp [Machine.start] at found
  · intro cell value time stored
    simp [Machine.start, World.state?] at stored
  · intro entry member
    cases member

end Machine
end RuleHost.Loop
