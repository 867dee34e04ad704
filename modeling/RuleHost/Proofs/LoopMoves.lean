import RuleHost.Proofs.LoopHistory

/-! What one turn of a loop can do to its clock, timers, deferred values, callbacks and tasks. Every
invariant of the loop is proved by cases on these moves, and none looks into the machine again. -/

namespace RuleHost.Loop

variable {σ : Type}

def Job.target? : Job σ → Option CellId
  | .timer _ _ _ (.run _) => none
  | .timer _ _ _ (.resolve target _) => some target
  | .delay _ target _ => some target
  | .continuation _ _ target _ => some target

def Job.duration? : Job σ → Option Nat
  | .timer _ _ duration _ => some duration
  | .delay duration _ _ => some duration
  | .continuation _ _ _ _ => none

def CellState.ofOutcome (time : Nat) : Outcome → CellState
  | .ok value => .resolved value time
  | .error _ => .abandoned

theorem CellState.ofOutcome_ne_pending (time : Nat) (outcome : Outcome) (writer : Writer) :
    CellState.ofOutcome time outcome ≠ .pending writer := by
  cases outcome <;> simp [ofOutcome]

namespace Machine

def debt? (m : Machine σ) : Option CellId :=
  match m.focus with
  | .program _ (.continuation _ target) => some target
  | _ => none

theorem state?_eq_none_iff {w : World} {cell : CellId} : w.state? cell = none ↔ w.cells.size ≤ cell := by
  simp [World.state?]

theorem any_isPending_iff {w : World} {cell : CellId} :
    (w.cells[cell]?).any Cell.isPending = true ↔ ∃ writer, w.state? cell = some (.pending writer) := by
  unfold World.state?
  cases w.cells[cell]? with
  | none => simp
  | some c => cases state : c.state <;> simp [Cell.isPending, state]

theorem any_isOpen_iff {w : World} {cell : CellId} :
    (w.cells[cell]?).any Cell.isOpen = true ↔ w.state? cell = some (.pending .program) := by
  unfold World.state?
  cases w.cells[cell]? with
  | none => simp
  | some c =>
    cases state : c.state with
    | pending writer => cases writer <;> simp [Cell.isOpen, state]
    | resolved value time => simp [Cell.isOpen, state]
    | abandoned => simp [Cell.isOpen, state]

theorem mem_tasksWhere {m : Machine σ} {property : Task σ → Bool} {id : TaskId} :
    id ∈ m.tasksWhere property ↔ ∃ task, m.tasks[id]? = some task ∧ property task = true := by
  simp only [tasksWhere, List.mem_filter, List.mem_range, Option.any_eq_true_iff_get]
  constructor
  · rintro ⟨inside, present, holds⟩
    exact ⟨_, by simp, holds⟩
  · rintro ⟨task, found, holds⟩
    have inside := (Array.getElem?_eq_some_iff.mp found).1
    exact ⟨inside, by simp [found], by simpa [found] using holds⟩

theorem tasks_setPhase (m : Machine σ) (id other : TaskId) (phase : Phase) :
    (m.setPhase id phase).tasks[other]? =
      if id = other then (m.tasks[other]?).map fun task => { task with phase } else m.tasks[other]? := by
  simp [setPhase, Array.getElem?_modify]

theorem found_setPhase {m : Machine σ} {id other : TaskId} {phase : Phase} {task : Task σ}
    (found : (m.setPhase id phase).tasks[other]? = some task) :
    (id = other ∧ ∃ old, m.tasks[other]? = some old ∧ task = { old with phase }) ∨
      id ≠ other ∧ m.tasks[other]? = some task := by
  rw [tasks_setPhase] at found
  split at found
  next same =>
    obtain ⟨old, stored, here⟩ := Option.map_eq_some_iff.mp found
    exact .inl ⟨same, old, stored, here.symm⟩
  next differ => exact .inr ⟨differ, found⟩

theorem found_spawn {m : Machine σ} {job : Job σ} {id : TaskId} {task : Task σ}
    (found : (m.spawn job).tasks[id]? = some task) :
    m.tasks[id]? = some task ∨ id = m.tasks.size ∧ task = ⟨job, .fresh, m.now⟩ := by
  simp only [spawn, Array.getElem?_push] at found
  split at found
  next last => exact .inr ⟨last, (Option.some.inj found).symm⟩
  next => exact .inl found

theorem scheduler_setScheduler (m : Machine σ) (id other : SchedulerId) (table : TimerTable)
    (known : id < m.schedulers.size) :
    (m.setScheduler id table).toWorld.scheduler other =
      if id = other then table else m.toWorld.scheduler other := by
  by_cases same : id = other
  · subst same
    simp [setScheduler, World.scheduler, known]
  · simp [setScheduler, World.scheduler, same]

theorem scheduler_of_tables {m n : Machine σ} {id : SchedulerId} {table : TimerTable}
    (known : id < m.schedulers.size) (tables : n.schedulers = (m.setScheduler id table).schedulers)
    (other : SchedulerId) :
    n.toWorld.scheduler other = if id = other then table else m.toWorld.scheduler other := by
  have same : n.toWorld.scheduler other = (m.setScheduler id table).toWorld.scheduler other := by
    simp only [World.scheduler, tables]
  rw [same, scheduler_setScheduler m id other table known]

theorem setScheduler_unknown {m : Machine σ} {id : SchedulerId}
    (unknown : ¬ id < m.schedulers.size) (table : TimerTable) : m.setScheduler id table = m := by
  simp [setScheduler, Array.setIfInBounds, unknown]

theorem state?_newCell (m : Machine σ) (state : CellState) (cell : CellId) :
    (m.newCell state).2.toWorld.state? cell =
      if cell = m.cells.size then some state else m.toWorld.state? cell := by
  simp only [newCell, World.state?, Array.getElem?_push]
  split <;> rfl

theorem state?_retain (m : Machine σ) (held cell : CellId) :
    (m.retain held).toWorld.state? cell = m.toWorld.state? cell := by
  simp only [retain, World.state?, Array.getElem?_modify]
  split
  · cases m.cells[cell]? <;> rfl
  · rfl

theorem state?_release (m : Machine σ) (held cell : CellId) :
    (m.release held).toWorld.state? cell = m.toWorld.state? cell := by
  simp only [release, World.state?, Array.getElem?_modify]
  split
  · cases m.cells[cell]? <;> rfl
  · rfl

@[simp] theorem now_settle (m : Machine σ) (cell : CellId) (state : CellState) :
    (m.settle cell state).now = m.now := by unfold settle; split <;> rfl

@[simp] theorem schedulers_settle (m : Machine σ) (cell : CellId) (state : CellState) :
    (m.settle cell state).schedulers = m.schedulers := by unfold settle; split <;> rfl

theorem scheduler_settle (m : Machine σ) (cell : CellId) (state : CellState) (other : SchedulerId) :
    (m.settle cell state).toWorld.scheduler other = m.toWorld.scheduler other := by
  simp only [World.scheduler, schedulers_settle]

@[simp] theorem entries_settle (m : Machine σ) (cell : CellId) (state : CellState) :
    (m.settle cell state).entries = m.entries := by unfold settle; split <;> rfl

@[simp] theorem tasks_settle (m : Machine σ) (cell : CellId) (state : CellState) :
    (m.settle cell state).tasks = m.tasks := by unfold settle; split <;> rfl

@[simp] theorem focus_settle (m : Machine σ) (cell : CellId) (state : CellState) :
    (m.settle cell state).focus = m.focus := by unfold settle; split <;> rfl

theorem state?_settle (m : Machine σ) (settled cell : CellId) (state : CellState) (writer : Writer)
    (pending : m.toWorld.state? settled = some (.pending writer)) :
    (m.settle settled state).toWorld.state? cell =
      if settled = cell then some state else m.toWorld.state? cell := by
  rw [settle, if_pos (any_isPending_iff.mpr ⟨writer, pending⟩)]
  simp only [World.state?, Array.getElem?_modify]
  split
  next same =>
    subst same
    unfold World.state? at pending
    cases found : m.cells[settled]? with
    | none => simp [found] at pending
    | some c => rfl
  next => rfl

theorem mem_ready_settle {m : Machine σ} {settled : CellId} {state : CellState} {writer : Writer}
    (pending : m.toWorld.state? settled = some (.pending writer)) {id : TaskId} :
    id ∈ (m.settle settled state).ready ↔
      id ∈ m.ready ∨ ∃ task, m.tasks[id]? = some task ∧ task.awaits settled = true := by
  rw [settle, if_pos (any_isPending_iff.mpr ⟨writer, pending⟩)]
  simp [mem_tasksWhere]

/-- Two machines with the same clock, timers, deferred values, callbacks and tasks, and with the same
tasks ready in whatever order. They may differ in what programs remember, in what the script does next,
in what the log was told and in how many handles are held. -/
structure Alike (m n : Machine σ) : Prop where
  now : n.now = m.now
  schedulers : n.schedulers = m.schedulers
  states : ∀ cell, n.toWorld.state? cell = m.toWorld.state? cell
  entries : n.entries = m.entries
  tasks : n.tasks = m.tasks
  ready : ∀ id, id ∈ n.ready ↔ id ∈ m.ready
  debt : n.debt? = m.debt?

theorem Alike.refl (m : Machine σ) : Alike m m :=
  ⟨rfl, rfl, fun _ => rfl, rfl, rfl, fun _ => .rfl, rfl⟩

theorem Alike.trans {first middle last : Machine σ} (before : Alike first middle)
    (after : Alike middle last) : Alike first last :=
  ⟨after.now.trans before.now, after.schedulers.trans before.schedulers,
    fun cell => (after.states cell).trans (before.states cell), after.entries.trans before.entries,
    after.tasks.trans before.tasks, fun id => (after.ready id).trans (before.ready id),
    after.debt.trans before.debt⟩

def enroll (m : Machine σ) (scheduler : SchedulerId) (duration : Nat) (effect : TimerEffect σ) :
    Machine σ :=
  (m.setScheduler scheduler ((m.toWorld.scheduler scheduler).schedule m.tasks.size).2).spawn
    (.timer scheduler (m.toWorld.scheduler scheduler).ids.issue.1 duration effect)

/-- Marks a task as cancelled and sees to it that it gets a turn. -/
def cancel (m : Machine σ) (task : TaskId) : Machine σ :=
  let m := m.setPhase task .cancelled
  if m.ready.contains task then m else { m with ready := m.ready ++ [task] }

@[simp] theorem now_cancel (m : Machine σ) (task : TaskId) : (m.cancel task).now = m.now := by
  unfold cancel; simp only; split <;> rfl

@[simp] theorem schedulers_cancel (m : Machine σ) (task : TaskId) :
    (m.cancel task).schedulers = m.schedulers := by unfold cancel; simp only; split <;> rfl

@[simp] theorem cells_cancel (m : Machine σ) (task : TaskId) : (m.cancel task).cells = m.cells := by
  unfold cancel; simp only; split <;> rfl

@[simp] theorem entries_cancel (m : Machine σ) (task : TaskId) :
    (m.cancel task).entries = m.entries := by unfold cancel; simp only; split <;> rfl

@[simp] theorem focus_cancel (m : Machine σ) (task : TaskId) : (m.cancel task).focus = m.focus := by
  unfold cancel; simp only; split <;> rfl

@[simp] theorem tasks_cancel (m : Machine σ) (task : TaskId) :
    (m.cancel task).tasks = (m.setPhase task .cancelled).tasks := by
  unfold cancel; simp only; split <;> rfl

theorem mem_ready_cancel {m : Machine σ} {task id : TaskId} :
    id ∈ (m.cancel task).ready ↔ id ∈ m.ready ∨ id = task := by
  by_cases queued : task ∈ m.ready
  · simp only [cancel, setPhase, List.contains_eq_mem, queued, decide_true, ite_true]
    refine ⟨.inl, ?_⟩
    rintro (member | rfl)
    · exact member
    · exact queued
  · simp [cancel, setPhase, queued]

structure Polled (m : Machine σ) (id : TaskId) (rest : List TaskId) (task : Task σ) : Prop where
  idle : m.focus = .idle
  queue : m.ready = id :: rest
  found : m.tasks[id]? = some task

/-- A task that has its turn and has neither ended nor been cancelled. -/
structure Awake (m : Machine σ) (id : TaskId) (rest : List TaskId) (task : Task σ) : Prop
    extends Polled m id rest task where
  live : task.phase ≠ .ended
  held : task.phase ≠ .cancelled

def lastTurn (m : Machine σ) (id : TaskId) (rest : List TaskId) : Machine σ :=
  { m with ready := rest }.setPhase id .ended

/-- What one step can change, up to what programs remember. -/
inductive Move (m : Machine σ) : Option (Call σ) → Machine σ → Prop where
  | quiet : Move m none m
  | function (id : FunctionId) (arguments : List Value) :
      Move m none (m.enter (.function id arguments m.now))
  | scheduler : Move m none { m with schedulers := m.schedulers.push {} }
  | reserve (scheduler : SchedulerId) (known : scheduler < m.schedulers.size) :
      Move m none (m.setScheduler scheduler (m.toWorld.scheduler scheduler).reserve)
  | timeout (scheduler : SchedulerId) (duration : Nat) (callback : Program σ)
      (known : scheduler < m.schedulers.size) :
      Move m (some (.timeout scheduler duration callback
        (m.toWorld.scheduler scheduler).ids.issue.1)) (m.enroll scheduler duration (.run callback))
  | delay (duration : Nat) (value : Value) :
      Move m (some (.delay duration value m.cells.size))
        ((m.newCell (.pending .task)).2.spawn (.delay duration m.cells.size value))
  | countedDelay (scheduler : SchedulerId) (duration : Nat) (value : Value)
      (known : scheduler < m.schedulers.size) :
      Move m (some (.countedDelay scheduler duration value
        (m.toWorld.scheduler scheduler).ids.issue.1 m.cells.size))
        ((m.newCell (.pending .task)).2.enroll scheduler duration (.resolve m.cells.size value))
  | attach (counter : Option SchedulerId) (source : CellId) (body : Value → Program σ)
      (known : ∀ scheduler ∈ counter, scheduler < m.schedulers.size)
      (inside : source < m.cells.size) :
      Move m (some (.attach counter source body m.cells.size))
        ((m.newCell (.pending .task)).2.spawn (.continuation counter source m.cells.size body))
  | refuse (scheduler : SchedulerId) (id : TimerId)
      (absent : (m.toWorld.scheduler scheduler).clear? id = none) :
      Move m (some (.clear scheduler id false)) m
  | clear (scheduler : SchedulerId) (id : TimerId) (task : TaskId) (table : TimerTable)
      (held : (m.toWorld.scheduler scheduler).clear? id = some (task, table))
      (live : ∀ t, m.tasks[task]? = some t → t.phase ≠ .ended) :
      Move m (some (.clear scheduler id true)) ((m.setScheduler scheduler table).cancel task)
  /-- A timer whose loop is gone leaves the table, and nothing else happens. -/
  | clearGone (scheduler : SchedulerId) (id : TimerId) (task : TaskId) (table : TimerTable)
      (held : (m.toWorld.scheduler scheduler).clear? id = some (task, table))
      (gone : ∃ t, m.tasks[task]? = some t ∧ t.phase = .ended) :
      Move m (some (.clear scheduler id true)) (m.setScheduler scheduler table)
  | create (state : CellState)
      (lawful : state = .pending .program ∨ ∃ value, state = .resolved value m.now) :
      Move m none (m.newCell state).2
  | settle (cell : CellId) (state : CellState)
      (held : m.toWorld.state? cell = some (.pending .program))
      (final : state = .abandoned ∨ ∃ value, state = .resolved value m.now) :
      Move m none (m.settle cell state)
  | conclude (source target : CellId) (outcome : Outcome)
      (running : m.focus = .program (.finish outcome) (.continuation source target)) :
      Move m (some (.answer target outcome))
        ({ m with focus := .idle }.settle target (.ofOutcome m.now outcome))
  | skip (id : TaskId) (rest : List TaskId) (idle : m.focus = .idle) (queue : m.ready = id :: rest)
      (ended : ∀ task, m.tasks[id]? = some task → task.phase = .ended) :
      Move m none { m with ready := rest }
  | sleep (id : TaskId) (rest : List TaskId) (task : Task σ) (duration : Nat)
      (awake : Awake m id rest task) (job : task.job.duration? = some duration)
      (early : m.now < task.deadline?.getD (m.now + duration)) :
      Move m none ({ m with ready := rest }.setPhase id
        (.sleeping (task.deadline?.getD (m.now + duration))))
  | stale (id : TaskId) (rest : List TaskId) (task : Task σ) (scheduler : SchedulerId)
      (timer : TimerId) (duration : Nat) (effect : TimerEffect σ) (awake : Awake m id rest task)
      (job : task.job = .timer scheduler timer duration effect)
      (absent : (m.toWorld.scheduler scheduler).fire? timer = none) :
      Move m none (m.lastTurn id rest)
  | fireCallback (id : TaskId) (rest : List TaskId) (task : Task σ) (scheduler : SchedulerId)
      (timer : TimerId) (duration : Nat) (callback : Program σ) (table : TimerTable)
      (awake : Awake m id rest task)
      (job : task.job = .timer scheduler timer duration (.run callback))
      (due : task.deadline?.getD (m.now + duration) ≤ m.now)
      (fired : (m.toWorld.scheduler scheduler).fire? timer = some table) :
      Move m none (((m.lastTurn id rest).setScheduler scheduler table).enter
        (.timer scheduler timer m.now))
  | fireDelay (id : TaskId) (rest : List TaskId) (task : Task σ) (scheduler : SchedulerId)
      (timer : TimerId) (duration : Nat) (target : CellId) (value : Value) (table : TimerTable)
      (awake : Awake m id rest task)
      (job : task.job = .timer scheduler timer duration (.resolve target value))
      (due : task.deadline?.getD (m.now + duration) ≤ m.now)
      (fired : (m.toWorld.scheduler scheduler).fire? timer = some table) :
      Move m none ((((m.lastTurn id rest).setScheduler scheduler table).enter
        (.timer scheduler timer m.now)).settle target (.resolved value m.now))
  | finishDelay (id : TaskId) (rest : List TaskId) (task : Task σ) (duration : Nat)
      (target : CellId) (value : Value) (awake : Awake m id rest task)
      (job : task.job = .delay duration target value)
      (due : task.deadline?.getD (m.now + duration) ≤ m.now) :
      Move m none (((m.lastTurn id rest).enter (.delay target m.now)).settle target
        (.resolved value m.now))
  | startBody (id : TaskId) (rest : List TaskId) (task : Task σ) (source target : CellId)
      (body : Value → Program σ) (value : Value) (time : Nat) (awake : Awake m id rest task)
      (job : task.job = .continuation none source target body)
      (resolved : m.toWorld.state? source = some (.resolved value time)) :
      Move m none (((m.lastTurn id rest).enter (.continuation source target value m.now)).proceed
        (body value) (.continuation source target))
  | startCounted (id : TaskId) (rest : List TaskId) (task : Task σ) (scheduler : SchedulerId)
      (source target : CellId) (body : Value → Program σ) (value : Value) (time : Nat)
      (awake : Awake m id rest task)
      (job : task.job = .continuation (some scheduler) source target body)
      (resolved : m.toWorld.state? source = some (.resolved value time)) :
      Move m none ((((m.lastTurn id rest).setScheduler scheduler
        (m.toWorld.scheduler scheduler).countContinuation).enter
          (.continuation source target value m.now)).proceed
            (body value) (.continuation source target))
  | wait (id : TaskId) (rest : List TaskId) (task : Task σ) (counter : Option SchedulerId)
      (source target : CellId) (body : Value → Program σ) (writer : Writer)
      (awake : Awake m id rest task) (job : task.job = .continuation counter source target body)
      (pending : m.toWorld.state? source = some (.pending writer)) :
      Move m none ({ m with ready := rest }.setPhase id .waiting)
  | drop (id : TaskId) (rest : List TaskId) (task : Task σ) (polled : Polled m id rest task)
      (cancelled : task.phase = .cancelled) (free : task.job.target? = none) :
      Move m none (m.lastTurn id rest)
  | dropOwing (id : TaskId) (rest : List TaskId) (task : Task σ) (target : CellId)
      (polled : Polled m id rest task) (live : task.phase ≠ .ended)
      (reason : task.phase = .cancelled ∨ ∃ counter source body,
        task.job = .continuation counter source target body ∧
          ∀ state, m.toWorld.state? source = some state → state = .abandoned)
      (owing : task.job.target? = some target) :
      Move m none ((m.lastTurn id rest).settle target .abandoned)
  /-- The clock moves when no task is ready, and no further than to the earliest deadline. -/
  | elapse (time : Nat) (idle : m.focus = .idle) (empty : m.ready = [])
      (earliest : ∀ (id : TaskId) (task : Task σ), m.tasks[id]? = some task →
        ∀ deadline, task.phase = .sleeping deadline → time ≤ deadline)
      (forward : m.now < time ∨ ∃ (id : TaskId) (task : Task σ),
        m.tasks[id]? = some task ∧ task.phase = .sleeping time) :
      Move m none { m with
        now := time
        ready := m.tasksWhere fun task => task.deadline?.any (· ≤ time) }

end Machine
end RuleHost.Loop
