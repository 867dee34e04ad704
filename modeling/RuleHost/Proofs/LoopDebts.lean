import RuleHost.Proofs.LoopPersistence

/-! What tasks owe. A task that has not ended is the only one that can settle the deferred value it took
along, and so is a continuation while its program runs. No two tasks ever owe the same value. -/

namespace RuleHost.Loop.Machine

variable {σ : Type}

/-- Who owes what. The running continuation is an ended task whose value is still to come. -/
structure Owing (m : Machine σ) : Prop where
  targets : ∀ (id : TaskId) (task : Task σ) target, m.tasks[id]? = some task →
    task.job.target? = some target → m.toWorld.state? target ≠ none
  sources : ∀ (id : TaskId) (task : Task σ), m.tasks[id]? = some task →
    ∀ counter source target body, task.job = .continuation counter source target body →
      m.toWorld.state? source ≠ none
  apart : ∀ (id other : TaskId) (task second : Task σ) target, m.tasks[id]? = some task →
    m.tasks[other]? = some second → task.job.target? = some target →
      second.job.target? = some target → id = other
  live : ∀ (id : TaskId) (task : Task σ) target, m.tasks[id]? = some task → task.phase ≠ .ended →
    task.job.target? = some target → m.toWorld.state? target = some (.pending .task)
  debt : ∀ target, m.debt? = some target → m.toWorld.state? target = some (.pending .task) ∧
    ∃ (id : TaskId) (task : Task σ), m.tasks[id]? = some task ∧ task.phase = .ended ∧
      task.job.target? = some target

namespace Owing

variable {m n : Machine σ}

theorem same (owing : Owing m) (tasks : n.tasks = m.tasks)
    (states : ∀ cell, n.toWorld.state? cell = m.toWorld.state? cell) (debt : n.debt? = m.debt?) :
    Owing n := by
  refine ⟨?_, ?_, ?_, ?_, ?_⟩
  · simp only [tasks, states]; exact owing.targets
  · simp only [tasks, states]; exact owing.sources
  · simp only [tasks]; exact owing.apart
  · simp only [tasks, states]; exact owing.live
  · simp only [tasks, states, debt]; exact owing.debt

theorem setScheduler (owing : Owing m) (id : SchedulerId) (table : TimerTable) :
    Owing (m.setScheduler id table) := owing.same rfl (fun _ => rfl) rfl

/-- A value tells which task owes it. -/
theorem unique (owing : Owing m) {id other : TaskId} {task second : Task σ} {target : CellId}
    (found : m.tasks[id]? = some task) (stored : m.tasks[other]? = some second)
    (owes : task.job.target? = some target) (shares : second.job.target? = some target) :
    task = second := by
  obtain rfl := owing.apart id other task second target found stored owes shares
  exact Option.some.inj (found.symm.trans stored)

theorem newCell (owing : Owing m) (state : CellState) : Owing (m.newCell state).2 := by
  have persists := persists_newCell m state
  have old {cell : CellId} {before : CellState} (stored : m.toWorld.state? cell = some before) :
      (m.newCell state).2.toWorld.state? cell = some before := by
    rw [state?_newCell, if_neg]
    · exact stored
    · rintro rfl
      rw [state?_eq_none_iff.mpr (Nat.le_refl _)] at stored
      cases stored
  refine ⟨?_, ?_, owing.apart, ?_, ?_⟩
  · exact fun id task target found job => persists.exist _ (owing.targets id task target found job)
  · exact fun id task found counter source target body job =>
      persists.exist _ (owing.sources id task found counter source target body job)
  · exact fun id task target found going job => old (owing.live id task target found going job)
  · exact fun target running => ⟨old (owing.debt target running).1, (owing.debt target running).2⟩

theorem spawn (owing : Owing m) (job : Job σ)
    (target : ∀ target, job.target? = some target →
      m.toWorld.state? target = some (.pending .task) ∧ ∀ (id : TaskId) (task : Task σ),
        m.tasks[id]? = some task → task.job.target? ≠ some target)
    (source : ∀ counter source target body, job = .continuation counter source target body →
      m.toWorld.state? source ≠ none) : Owing (m.spawn job) := by
  refine ⟨?_, ?_, ?_, ?_, ?_⟩
  · intro id task owed found owes
    rcases found_spawn found with old | ⟨_, rfl⟩
    · exact owing.targets id task owed old owes
    · have pending : (m.spawn job).toWorld.state? owed = some (.pending .task) := (target owed owes).1
      rw [pending]
      exact Option.some_ne_none _
  · intro id task found counter awaited owed body continuation
    rcases found_spawn found with old | ⟨_, rfl⟩
    · exact owing.sources id task old counter awaited owed body continuation
    · exact source counter awaited owed body continuation
  · intro id other task second owed found stored owes shares
    rcases found_spawn found with old | ⟨last, rfl⟩ <;>
      rcases found_spawn stored with older | ⟨also, rfl⟩
    · exact owing.apart id other task second owed old older owes shares
    · exact absurd owes ((target owed shares).2 id task old)
    · exact absurd shares ((target owed owes).2 other second older)
    · exact last.trans also.symm
  · intro id task owed found going owes
    rcases found_spawn found with old | ⟨_, rfl⟩
    · exact owing.live id task owed old going owes
    · exact (target owed owes).1
  · intro owed running
    obtain ⟨pending, id, task, found, ended, owes⟩ := owing.debt owed running
    refine ⟨pending, id, task, ?_, ended, owes⟩
    have inside := (Array.getElem?_eq_some_iff.mp found).1
    simp only [Machine.spawn, Array.getElem?_push, Nat.ne_of_lt inside, ite_false, found]

theorem engage (owing : Owing m) (job : Job σ) (target : job.target? = some m.cells.size)
    (source : ∀ counter source target body, job = .continuation counter source target body →
      m.toWorld.state? source ≠ none) :
    Owing ((m.newCell (.pending .task)).2.spawn job) := by
  refine (owing.newCell _).spawn job ?_ ?_
  · intro owed owes
    obtain rfl : m.cells.size = owed := Option.some.inj (target.symm.trans owes)
    refine ⟨by rw [state?_newCell, if_pos rfl], fun id task found shares => ?_⟩
    exact owing.targets id task _ found shares (state?_eq_none_iff.mpr (Nat.le_refl _))
  · exact fun counter awaited owed body continuation =>
      (persists_newCell m _).exist _ (source counter awaited owed body continuation)

theorem setPhase (owing : Owing m) (id : TaskId) (phase : Phase)
    (going : ∀ task, m.tasks[id]? = some task → task.phase ≠ .ended) : Owing (m.setPhase id phase) := by
  have lookup {other : TaskId} {task : Task σ}
      (found : (m.setPhase id phase).tasks[other]? = some task) :
      ∃ old, m.tasks[other]? = some old ∧ task.job = old.job ∧
        (task.phase ≠ .ended → old.phase ≠ .ended) := by
    rcases found_setPhase found with ⟨rfl, old, stored, rfl⟩ | ⟨_, stored⟩
    · exact ⟨old, stored, rfl, fun _ => going old stored⟩
    · exact ⟨task, stored, rfl, fun live => live⟩
  refine ⟨?_, ?_, ?_, ?_, ?_⟩
  · intro other task target found owes
    obtain ⟨old, stored, job, _⟩ := lookup found
    exact owing.targets other old target stored (job ▸ owes)
  · intro other task found counter source target body continuation
    obtain ⟨old, stored, job, _⟩ := lookup found
    exact owing.sources other old stored counter source target body (job ▸ continuation)
  · intro first second task other target found stored owes shares
    obtain ⟨old, before, job, _⟩ := lookup found
    obtain ⟨older, earlier, work, _⟩ := lookup stored
    exact owing.apart first second old older target before earlier (job ▸ owes) (work ▸ shares)
  · intro other task target found live owes
    obtain ⟨old, stored, job, kept⟩ := lookup found
    exact owing.live other old target stored (kept live) (job ▸ owes)
  · intro target running
    obtain ⟨pending, owner, task, found, ended, owes⟩ := owing.debt target running
    refine ⟨pending, owner, task, ?_, ended, owes⟩
    rw [tasks_setPhase, if_neg]
    · exact found
    · rintro rfl
      exact going task found ended

theorem settle (owing : Owing m) (cell : CellId) (state : CellState)
    (free : ∀ (id : TaskId) (task : Task σ), m.tasks[id]? = some task → task.phase ≠ .ended →
      task.job.target? ≠ some cell)
    (idle : m.debt? ≠ some cell) : Owing (m.settle cell state) := by
  have persists := persists_settle m cell state
  have debt : (m.settle cell state).debt? = m.debt? := by simp only [debt?, focus_settle]
  have other {target : CellId} {writer : Writer} (differ : cell ≠ target)
      (pending : m.toWorld.state? target = some (.pending writer)) :
      (m.settle cell state).toWorld.state? target = some (.pending writer) := by
    rcases state?_settle_cases m cell target state with ⟨here, _⟩ | same
    · exact absurd here differ
    · exact same.trans pending
  refine ⟨?_, ?_, ?_, ?_, ?_⟩
  · rw [tasks_settle]
    exact fun id task target found job => persists.exist _ (owing.targets id task target found job)
  · rw [tasks_settle]
    exact fun id task found counter source target body job =>
      persists.exist _ (owing.sources id task found counter source target body job)
  · rw [tasks_settle]; exact owing.apart
  · rw [tasks_settle]
    intro id task target found going owes
    refine other ?_ (owing.live id task target found going owes)
    rintro rfl
    exact free id task found going owes
  · rw [tasks_settle, debt]
    intro target running
    obtain ⟨pending, owner⟩ := owing.debt target running
    refine ⟨other ?_ pending, owner⟩
    rintro rfl
    exact idle running

/-- Once a task has ended, what it owed may be settled. -/
theorem discharge (owing : Owing m) {id : TaskId} {task : Task σ} {target : CellId}
    (found : m.tasks[id]? = some task) (ended : task.phase = .ended)
    (owes : task.job.target? = some target) (idle : m.debt? ≠ some target) (state : CellState) :
    Owing (m.settle target state) := by
  refine owing.settle target state ?_ idle
  intro other second stored going shares
  obtain rfl := owing.unique found stored owes shares
  exact going ended

theorem turn (owing : Owing m) {id : TaskId} {rest : List TaskId} {task : Task σ}
    (polled : Polled m id rest task) (live : task.phase ≠ .ended) (phase : Phase) :
    Owing ({ m with ready := rest }.setPhase id phase) := by
  have waiting : Owing { m with ready := rest } := owing.same rfl (fun _ => rfl) rfl
  apply waiting.setPhase id phase
  intro other found
  obtain rfl : task = other := Option.some.inj (polled.found.symm.trans found)
  exact live

theorem proceed (owing : Owing m) {id : TaskId} {task : Task σ} {source target : CellId}
    (found : m.tasks[id]? = some task) (ended : task.phase = .ended)
    (owes : task.job.target? = some target)
    (pending : m.toWorld.state? target = some (.pending .task)) (body : Program σ) :
    Owing (m.proceed body (.continuation source target)) := by
  refine ⟨owing.targets, owing.sources, owing.apart, owing.live, ?_⟩
  intro owed running
  cases running
  exact ⟨pending, id, task, found, ended, owes⟩

end Owing

theorem debt?_idle {m : Machine σ} (idle : m.focus = .idle) : m.debt? = none := by
  simp only [debt?, idle]

theorem not_owed {m : Machine σ} (idle : m.focus = .idle) (target : CellId) :
    m.debt? ≠ some target := by
  rw [debt?_idle idle]
  exact Option.some_ne_none target |>.symm

theorem found_lastTurn {m : Machine σ} {id : TaskId} {rest : List TaskId} {task : Task σ}
    (polled : Polled m id rest task) :
    (m.lastTurn id rest).tasks[id]? = some { task with phase := .ended } := by
  rw [Machine.lastTurn, tasks_setPhase, if_pos rfl]
  exact congrArg (Option.map _) polled.found

theorem Owing.invariant : Invariant (σ := σ) (fun _ _ => True) fun _ m => Owing m where
  alike alike owing := owing.same alike.tasks alike.states alike.debt
  move := by
    intro history m n call _ move owing
    cases move with
    | quiet | refuse => exact owing
    | function | scheduler | reserve | clearGone => exact owing.same rfl (fun _ => rfl) rfl
    | timeout scheduler duration callback known =>
      exact (owing.setScheduler scheduler _).spawn _ (by simp [Job.target?]) (by simp)
    | delay => exact owing.engage _ rfl (by simp)
    | countedDelay scheduler duration value known =>
      have entered := owing.setScheduler scheduler ((m.toWorld.scheduler scheduler).schedule m.tasks.size).2
      exact entered.engage _ rfl (by simp)
    | attach counter source body known inside =>
      apply owing.engage _ rfl
      intro _ _ _ _ same
      cases same
      exact fun missing => Nat.not_le_of_lt inside (state?_eq_none_iff.mp missing)
    | clear scheduler id task table held live =>
      have entered := owing.setScheduler scheduler table
      refine (entered.setPhase task .cancelled live).same (tasks_cancel _ _) (fun cell => ?_) ?_
      · simp only [World.state?, cells_cancel]; rfl
      · simp only [debt?, focus_cancel]; rfl
    | create state lawful => exact owing.newCell state
    | settle cell state held final =>
      refine owing.settle cell state ?_ ?_
      · intro id task found going owes
        cases held.symm.trans (owing.live id task cell found going owes)
      · intro running
        cases held.symm.trans (owing.debt cell running).1
    | conclude source target outcome running =>
      have owed : m.debt? = some target := by simp only [debt?, running]
      obtain ⟨_, id, task, found, ended, owes⟩ := owing.debt target owed
      have idle : Owing { m with focus := .idle } :=
        ⟨owing.targets, owing.sources, owing.apart, owing.live, by simp [debt?]⟩
      exact idle.discharge found ended owes (not_owed rfl target) _
    | skip => exact owing.same rfl (fun _ => rfl) rfl
    | sleep id rest task duration awake => exact owing.turn awake.toPolled awake.live _
    | stale id rest task scheduler timer duration effect awake =>
      exact owing.turn awake.toPolled awake.live _
    | wait id rest task counter source target body writer awake =>
      exact owing.turn awake.toPolled awake.live _
    | fireCallback id rest task scheduler timer duration callback table awake =>
      exact (owing.turn awake.toPolled awake.live .ended).same rfl (fun _ => rfl) rfl
    | fireDelay id rest task scheduler timer duration target value table awake job =>
      have fired : Owing (((m.lastTurn id rest).setScheduler scheduler table).enter
          (.timer scheduler timer m.now)) :=
        (owing.turn awake.toPolled awake.live .ended).same rfl (fun _ => rfl) rfl
      refine fired.discharge (found_lastTurn awake.toPolled) rfl ?_ ?_ _
      · simp only [job, Job.target?]
      · exact not_owed awake.idle target
    | finishDelay id rest task duration target value awake job =>
      have entered : Owing ((m.lastTurn id rest).enter (.delay target m.now)) :=
        (owing.turn awake.toPolled awake.live .ended).same rfl (fun _ => rfl) rfl
      refine entered.discharge (found_lastTurn awake.toPolled) rfl ?_ ?_ _
      · simp only [job, Job.target?]
      · exact not_owed awake.idle target
    | startBody id rest task source target body value time awake job =>
      have owes : task.job.target? = some target := by simp only [job, Job.target?]
      have entered : Owing ((m.lastTurn id rest).enter (.continuation source target value m.now)) :=
        (owing.turn awake.toPolled awake.live .ended).same rfl (fun _ => rfl) rfl
      have pending := owing.live id task target awake.found awake.live owes
      exact entered.proceed (found_lastTurn awake.toPolled) rfl owes pending _
    | startCounted id rest task scheduler source target body value time awake job =>
      have owes : task.job.target? = some target := by simp only [job, Job.target?]
      have entered : Owing (((m.lastTurn id rest).setScheduler scheduler
          (m.toWorld.scheduler scheduler).countContinuation).enter
            (.continuation source target value m.now)) :=
        (owing.turn awake.toPolled awake.live .ended).same rfl (fun _ => rfl) rfl
      have pending := owing.live id task target awake.found awake.live owes
      exact entered.proceed (found_lastTurn awake.toPolled) rfl owes pending _
    | drop id rest task polled cancelled => exact owing.turn polled (by simp [cancelled]) _
    | dropOwing id rest task target polled live reason owes =>
      refine (owing.turn polled live .ended).discharge (found_lastTurn polled) rfl owes ?_ _
      exact not_owed polled.idle target
    | elapse => exact owing.same rfl (fun _ => rfl) rfl

theorem Owing.start (memory : σ) (script : Script σ) (attached : Bool) :
    Owing (start memory script attached) :=
  ⟨by simp [Machine.start], by simp [Machine.start], by simp [Machine.start], by simp [Machine.start],
    by simp [Machine.start, debt?]⟩

end RuleHost.Loop.Machine
