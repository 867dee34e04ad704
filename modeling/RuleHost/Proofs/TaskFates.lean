import RuleHost.Proofs.TaskTables

/-! What becomes of tasks. A timer stays in its table until it fires or is cleared, a delay always ends,
and a continuation ends with its source. This holds in every run, whatever the order of turns. -/

namespace RuleHost.Loop.Machine

variable {σ : Type}

/-- What is known of a loop before its tasks are looked at. -/
structure Orderly (history : List (Record σ)) (m : Machine σ) : Prop where
  ledger : Ledger history m
  punctual : Punctual m
  owing : Owing m

theorem Owing.settled {m n : Machine σ} (owing : Owing m) {id : TaskId} {task : Task σ}
    {target : CellId} (found : m.tasks[id]? = some task) (live : task.phase ≠ .ended)
    (owes : task.job.target? = some target)
    (states : ∀ cell, n.toWorld.state? cell = m.toWorld.state? cell) (state : CellState) :
    (n.settle target state).toWorld.state? target = some state := by
  have pending := (states target).trans (owing.live id task target found live owes)
  rw [state?_settle n target target state _ pending, if_pos rfl]

theorem Underway.conclude {history : List (Record σ)} {m : Machine σ} {born : Nat} {job : Job σ}
    (underway : Underway m born job) (owing : Owing m) {target : CellId} {outcome : Outcome}
    (owed : m.debt? = some target) (answered : ⟨m.now, .answer target outcome⟩ ∈ history)
    (persists : Persists m ({ m with focus := .idle }.settle target (.ofOutcome m.now outcome))) :
    Concluded history ({ m with focus := .idle }.settle target (.ofOutcome m.now outcome)) born job := by
  cases underway with
  | running awaited entered owes exact =>
    obtain rfl := Option.some.inj (owed.symm.trans owes)
    have pending := (owing.debt target owed).1
    have left := state?_settle { m with focus := .idle } target target (.ofOutcome m.now outcome) _ pending
    rw [if_pos rfl] at left
    rw [exact] at answered
    refine .continued (persists.resolved awaited) (persists.entries.mem entered) answered ?_
    rw [← exact]
    exact left

/-- A program that begins is on its way. -/
theorem Underway.begin {m n : Machine σ} (punctual : Punctual m) {id : TaskId} {rest : List TaskId}
    {task : Task σ} {counter : Option SchedulerId} {source target : CellId} {body : Value → Program σ}
    {value : Value} {time : Nat} (awake : Awake m id rest task)
    (job : task.job = .continuation counter source target body)
    (resolved : m.toWorld.state? source = some (.resolved value time)) (persists : Persists m n)
    (now : n.now = m.now) (debt : n.debt? = some target)
    (entries : n.entries = .continuation source target value m.now :: m.entries) :
    Underway n task.born task.job := by
  have exact := punctual.resolved_exact awake job resolved
  rw [job]
  refine .running (persists.resolved resolved) ?_ debt (now.trans exact)
  rw [entries, ← exact]
  exact List.mem_cons_self

section Ends

variable {history : List (Record σ)} {m : Machine σ} {id : TaskId} {rest : List TaskId} {task : Task σ}
  {duration : Nat} {target : CellId} {value : Value}

theorem Concluded.finishDelay (punctual : Punctual m) (owing : Owing m) (awake : Awake m id rest task)
    (job : task.job = .delay duration target value)
    (due : task.deadline?.getD (m.now + duration) ≤ m.now) :
    Concluded history (((m.lastTurn id rest).enter (.delay target m.now)).settle target
      (.resolved value m.now)) task.born task.job := by
  have exact := punctual.due_exact awake (by rw [job, Job.duration?]) due
  have left := owing.settled (n := (m.lastTurn id rest).enter (.delay target m.now)) awake.found
    awake.live (by rw [job, Job.target?]) (fun _ => rfl) (.resolved value m.now)
  rw [job]
  refine .delayed ?_ (exact ▸ left)
  rw [entries_settle, ← exact]
  exact List.mem_cons_self

theorem Concluded.fireDelay (punctual : Punctual m) (owing : Owing m) (awake : Awake m id rest task)
    {scheduler : SchedulerId} {timer : TimerId}
    (job : task.job = .timer scheduler timer duration (.resolve target value))
    (due : task.deadline?.getD (m.now + duration) ≤ m.now) (table : TimerTable) :
    Concluded history ((((m.lastTurn id rest).setScheduler scheduler table).enter
      (.timer scheduler timer m.now)).settle target (.resolved value m.now)) task.born task.job := by
  have exact := punctual.due_exact awake (by rw [job, Job.duration?]) due
  have left := owing.settled (n := ((m.lastTurn id rest).setScheduler scheduler table).enter
    (.timer scheduler timer m.now)) awake.found awake.live (by rw [job, Job.target?])
    (fun _ => rfl) (.resolved value m.now)
  rw [job]
  refine .resolved ?_ (exact ▸ left)
  rw [entries_settle, ← exact]
  exact List.mem_cons_self

end Ends

namespace Standing

variable {history : List (Record σ)} {m n : Machine σ}

theorem delay (standing : Standing history m) (orderly : Orderly history m) {id : TaskId}
    {rest : List TaskId} {task : Task σ} {duration : Nat} {target : CellId} {value : Value}
    (awake : Awake m id rest task) (job : task.job = .delay duration target value)
    (due : task.deadline?.getD (m.now + duration) ≤ m.now)
    (persists : Persists m (((m.lastTurn id rest).enter (.delay target m.now)).settle target
      (.resolved value m.now))) :
    Standing history (((m.lastTurn id rest).enter (.delay target m.now)).settle target
      (.resolved value m.now)) := by
  have exact := orderly.punctual.due_exact awake (by rw [job, Job.duration?]) due
  have untimed : ∀ scheduler timer span effect, task.job ≠ .timer scheduler timer span effect := by
    simp [job]
  refine standing.finish awake.toPolled persists (tasks_settle _ _ _) ?_ ?_
    (.inl (.finishDelay orderly.punctual orderly.owing awake job due)) ?_
  · intro scheduler timer other _
    rw [scheduler_settle]
    rfl
  · intro scheduler timer
    rw [scheduler_settle]
    exact standing.absent awake.found (.inr untimed) scheduler timer
  · rw [entries_settle]
    intro entry member
    rcases List.mem_cons.mp member with rfl | old
    · refine .inr ⟨id, { task with phase := .ended }, duration, value, ?_, job, exact⟩
      rw [tasks_settle]
      exact found_lastTurn awake.toPolled
    · exact .inl old

theorem begin (standing : Standing history m) (punctual : Punctual m) {id : TaskId} {rest : List TaskId}
    {task : Task σ} {counter : Option SchedulerId} {source target : CellId}
    {body : Value → Program σ} {value : Value} {time : Nat} (awake : Awake m id rest task)
    (job : task.job = .continuation counter source target body)
    (resolved : m.toWorld.state? source = some (.resolved value time)) (persists : Persists m n)
    (tasks : n.tasks = (m.lastTurn id rest).tasks)
    (tables : ∀ scheduler,
      (n.toWorld.scheduler scheduler).pending = (m.toWorld.scheduler scheduler).pending)
    (now : n.now = m.now) (debt : n.debt? = some target)
    (entries : n.entries = .continuation source target value m.now :: m.entries) :
    Standing history n := by
  have exact := punctual.resolved_exact awake job resolved
  have awaited := persists.resolved resolved
  have untimed : ∀ scheduler timer span effect, task.job ≠ .timer scheduler timer span effect := by
    simp [job]
  have underway := Underway.begin punctual awake job resolved persists now debt entries
  refine standing.finish awake.toPolled persists tasks ?_ ?_ (.inr underway) ?_
  · intro scheduler timer other _
    rw [tables]
  · intro scheduler timer
    rw [tables]
    exact standing.absent awake.found (.inr untimed) scheduler timer
  · rw [entries]
    intro entry member
    rcases List.mem_cons.mp member with rfl | old
    · refine .inr ⟨id, { task with phase := .ended }, counter, body, time, ?_, job, awaited, exact⟩
      rw [tasks]
      exact found_lastTurn awake.toPolled
    · exact .inl old

/-- A task that is dropped has been cleared, or its source is lost, and what it owed is lost too. -/
theorem dropOwing (standing : Standing history m) (orderly : Orderly history m) {id : TaskId}
    {rest : List TaskId} {task : Task σ} {target : CellId} (polled : Polled m id rest task)
    (live : task.phase ≠ .ended)
    (reason : task.phase = .cancelled ∨ ∃ counter source body,
      task.job = .continuation counter source target body ∧
        ∀ state, m.toWorld.state? source = some state → state = .abandoned)
    (owes : task.job.target? = some target)
    (persists : Persists m ((m.lastTurn id rest).settle target .abandoned)) :
    Standing history ((m.lastTurn id rest).settle target .abandoned) := by
  have left := orderly.owing.settled (n := m.lastTurn id rest) polled.found live owes (fun _ => rfl)
    .abandoned
  have outside : task.phase = .cancelled ∨ ∀ scheduler timer span effect,
      task.job ≠ .timer scheduler timer span effect := by
    rcases reason with cancelled | ⟨counter, source, body, job, _⟩
    · exact .inl cancelled
    · exact .inr (by simp [job])
  refine standing.finish polled persists (tasks_settle _ _ _) ?_ ?_ (.inl ?_) ?_
  · intro scheduler timer other _
    rw [scheduler_settle]
    rfl
  · intro scheduler timer
    rw [scheduler_settle]
    exact standing.absent polled.found outside scheduler timer
  · rcases reason with cancelled | ⟨counter, source, body, job, lost⟩
    · obtain ⟨scheduler, timer, duration, effect, job, cleared⟩ :=
        (standing.tasks id task polled.found).cancelled cancelled
      rw [job] at owes ⊢
      refine .cleared cleared fun other value same => ?_
      subst same
      cases owes
      exact left
    · rw [job]
      obtain ⟨state, stored⟩ := Option.ne_none_iff_exists'.mp
        (orderly.owing.sources id task polled.found counter source target body job)
      obtain rfl := lost state stored
      exact .lost (persists.abandoned stored) left
  · rw [entries_settle]
    exact fun entry member => .inl member

end Standing

theorem Standing.invariant : Invariant (σ := σ) Orderly Standing where
  alike alike standing := by
    refine standing.quiet alike.persists List.suffix_rfl alike.tasks (fun scheduler => ?_) alike.now
      alike.debt alike.entries
    simp only [World.scheduler, alike.schedulers]
  move := by
    intro history m n call orderly move standing
    have persists := move.persists
    have suffix : history <:+ m.noted call ++ history := List.suffix_append _ _
    cases move with
    | quiet | refuse | skip => exact standing.quiet persists suffix rfl (fun _ => rfl) rfl rfl rfl
    | function id arguments =>
      refine standing.same persists suffix rfl (fun _ => rfl) ?_ ?_
      · exact fun born job underway => .inr (underway.persists persists rfl rfl)
      · intro entry member
        rcases List.mem_cons.mp member with rfl | old
        · exact .inr trivial
        · exact .inl old
    | scheduler =>
      refine standing.quiet persists suffix rfl (fun scheduler => ?_) rfl rfl rfl
      exact congrArg TimerTable.pending (scheduler_push m.toWorld scheduler)
    | reserve scheduler known =>
      refine standing.quiet persists suffix rfl (fun other => ?_) rfl rfl rfl
      rw [scheduler_setScheduler m scheduler other _ known]
      split
      next same => subst same; rfl
      next => rfl
    | timeout scheduler duration callback known =>
      exact standing.spawn persists suffix _ rfl
        (find?_enrolled orderly.ledger known rfl duration (.run callback)) rfl rfl rfl
    | delay duration value =>
      refine standing.spawn persists suffix _ rfl (fun scheduler timer id => ?_) rfl rfl rfl
      refine (or_iff_left ?_).symm
      rintro ⟨_, _, _, same⟩
      cases same
    | countedDelay scheduler duration value known =>
      exact standing.spawn persists suffix _ rfl
        (find?_enrolled orderly.ledger known rfl duration (.resolve m.cells.size value)) rfl rfl rfl
    | attach counter source body known inside =>
      refine standing.spawn persists suffix _ rfl (fun scheduler timer id => ?_) rfl rfl rfl
      refine (or_iff_left ?_).symm
      rintro ⟨_, _, _, same⟩
      cases same
    | clear scheduler timer task table held live =>
      refine standing.clear suffix held ?_ persists
      simp [noted, clearings, Call.clears]
    | clearGone scheduler timer task table held gone =>
      obtain ⟨stored, found, ended⟩ := gone
      obtain ⟨other, _, _, same, _, live, _⟩ := standing.held scheduler timer task (clear?_pending held).1
      obtain rfl := Option.some.inj (found.symm.trans same)
      exact absurd ended live
    | create => exact standing.quiet persists suffix rfl (fun _ => rfl) rfl rfl rfl
    | settle cell state held final =>
      refine standing.quiet persists suffix (tasks_settle _ _ _) (fun scheduler => ?_) (now_settle _ _ _)
        ?_ (entries_settle _ _ _)
      · rw [scheduler_settle]
      · simp only [debt?, focus_settle]
    | conclude source target outcome running =>
      refine standing.same persists suffix (tasks_settle _ _ _) (fun scheduler => ?_) ?_ ?_
      · rw [scheduler_settle]
      · have owed : m.debt? = some target := by simp only [debt?, running]
        exact fun born job underway => .inl
          (underway.conclude orderly.owing owed List.mem_cons_self persists)
      · rw [entries_settle]
        exact fun entry member => .inl member
    | sleep id rest task duration awake => exact standing.turn awake (by simp) (by simp)
    | wait id rest task counter source target body writer awake =>
      exact standing.turn awake (by simp) (by simp)
    | stale id rest task scheduler timer duration effect awake job absent =>
      exact absurd absent (standing.fires awake job)
    | fireCallback id rest task scheduler timer duration callback table awake job due fired =>
      apply standing.fire orderly.punctual awake job due fired persists rfl rfl rfl
      intro _ entered
      rw [job]
      exact .called entered
    | fireDelay id rest task scheduler timer duration target value table awake job due fired =>
      refine standing.fire orderly.punctual awake job due fired persists (tasks_settle _ _ _)
        (schedulers_settle _ _ _) (entries_settle _ _ _) fun _ _ => ?_
      exact .fireDelay orderly.punctual orderly.owing awake job due table
    | finishDelay id rest task duration target value awake job due =>
      exact standing.delay orderly awake job due persists
    | startBody id rest task source target body value time awake job resolved =>
      exact standing.begin orderly.punctual awake job resolved persists rfl (fun _ => rfl) rfl rfl rfl
    | startCounted id rest task scheduler source target body value time awake job resolved =>
      refine standing.begin orderly.punctual awake job resolved persists rfl (fun other => ?_) rfl rfl rfl
      exact pending_countContinuation m scheduler other
    | drop id rest task polled cancelled free =>
      obtain ⟨scheduler, timer, duration, effect, job, cleared⟩ :=
        (standing.tasks id task polled.found).cancelled cancelled
      refine standing.finish polled persists rfl (fun _ _ _ _ => .rfl)
        (standing.absent polled.found (.inl cancelled)) (.inl ?_) fun entry member => .inl member
      rw [job]
      refine .cleared cleared fun target value same => ?_
      simp [job, same, Job.target?] at free
    | dropOwing id rest task target polled live reason owes =>
      exact standing.dropOwing orderly polled live reason owes persists
    | elapse time idle empty earliest forward =>
      refine standing.same persists suffix rfl (fun _ => rfl) ?_ fun entry member => .inl member
      exact fun born job underway => absurd underway (not_underway idle)

theorem Traced.orderly {memory : σ} {script : Script σ} {attached : Bool} {history : List (Record σ)}
    {m : Machine σ} (run : Traced (Machine.start memory script attached) history m) : Orderly history m :=
  ⟨Ledger.invariant.traced run (fun _ => trivial) (.start memory script attached),
    Punctual.invariant.traced run (fun _ => trivial) (.start memory script attached),
    Owing.invariant.traced run (fun _ => trivial) (.start memory script attached)⟩

theorem Traced.filed {memory : σ} {script : Script σ} {attached : Bool} {history : List (Record σ)}
    {m : Machine σ} (run : Traced (Machine.start memory script attached) history m) : Filed history m :=
  Filed.invariant.traced run (fun _ => trivial) (.start memory script attached)

theorem Traced.standing {memory : σ} {script : Script σ} {attached : Bool}
    {history : List (Record σ)} {m : Machine σ}
    (run : Traced (Machine.start memory script attached) history m) : Standing history m := by
  refine Standing.invariant.traced run Traced.orderly ⟨?_, ?_, ?_⟩
  · intro id task found
    simp [Machine.start] at found
  · intro scheduler timer id waits
    rw [scheduler_start] at waits
    cases waits
  · intro entry member
    cases member

end RuleHost.Loop.Machine
