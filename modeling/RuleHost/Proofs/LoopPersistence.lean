import RuleHost.Proofs.LoopSteps

/-! What time does not undo. A deferred value that was settled or lost stays so, a callback that was
entered stays entered, and a task keeps its job and never starts again once it has ended. -/

namespace RuleHost.Loop.Machine

variable {σ : Type}

structure Persists (m n : Machine σ) : Prop where
  exist : ∀ cell, m.toWorld.state? cell ≠ none → n.toWorld.state? cell ≠ none
  settled : ∀ cell state, m.toWorld.state? cell = some state →
    (∀ writer, state ≠ .pending writer) → n.toWorld.state? cell = some state
  entries : m.entries <:+ n.entries
  tasks : ∀ (id : TaskId) (task : Task σ), m.tasks[id]? = some task → ∃ later,
    n.tasks[id]? = some later ∧ later.born = task.born ∧ later.job = task.job ∧
      (task.phase = .ended → later.phase = .ended)

namespace Persists

variable {m n : Machine σ}

theorem of_eq (states : ∀ cell, n.toWorld.state? cell = m.toWorld.state? cell)
    (entries : m.entries <:+ n.entries) (tasks : n.tasks = m.tasks) : Persists m n := by
  refine ⟨fun cell present => ?_, fun cell state stored _ => ?_, entries, fun id task found => ?_⟩
  · rw [states]; exact present
  · rw [states]; exact stored
  · rw [tasks]; exact ⟨task, found, rfl, rfl, fun ended => ended⟩

theorem resolved (persists : Persists m n) {cell : CellId} {value : Value} {time : Nat}
    (stored : m.toWorld.state? cell = some (.resolved value time)) :
    n.toWorld.state? cell = some (.resolved value time) :=
  persists.settled cell _ stored (by simp)

theorem abandoned (persists : Persists m n) {cell : CellId}
    (stored : m.toWorld.state? cell = some .abandoned) : n.toWorld.state? cell = some .abandoned :=
  persists.settled cell _ stored (by simp)

theorem refl (m : Machine σ) : Persists m m := of_eq (fun _ => rfl) List.suffix_rfl rfl

theorem trans {first middle last : Machine σ} (before : Persists first middle)
    (after : Persists middle last) : Persists first last := by
  refine ⟨fun cell present => after.exist cell (before.exist cell present),
    fun cell state stored final => ?_, before.entries.trans after.entries, fun id task found => ?_⟩
  · exact after.settled cell state (before.settled cell state stored final) final
  · obtain ⟨middle, stored, born, job, done⟩ := before.tasks id task found
    obtain ⟨later, kept, time, work, still⟩ := after.tasks id middle stored
    exact ⟨later, kept, time.trans born, work.trans job, fun ended => still (done ended)⟩

end Persists

theorem Alike.persists {m n : Machine σ} (alike : Alike m n) : Persists m n := by
  refine .of_eq alike.states ?_ alike.tasks
  exact alike.entries.symm ▸ List.suffix_rfl

theorem persists_newCell (m : Machine σ) (state : CellState) : Persists m (m.newCell state).2 := by
  have old {cell : CellId} (present : m.toWorld.state? cell ≠ none) :
      (m.newCell state).2.toWorld.state? cell = m.toWorld.state? cell := by
    rw [state?_newCell, if_neg]
    rintro rfl
    exact present (state?_eq_none_iff.mpr (Nat.le_refl _))
  refine ⟨fun cell present => ?_, fun cell before stored _ => ?_, List.suffix_rfl, ?_⟩
  · rw [old present]; exact present
  · rw [old (by simp [stored])]; exact stored
  · exact fun id task found => ⟨task, found, rfl, rfl, fun ended => ended⟩

theorem settle_cases (m : Machine σ) (cell : CellId) (state : CellState) :
    (∃ writer, m.toWorld.state? cell = some (.pending writer)) ∨ m.settle cell state = m := by
  by_cases pending : (m.cells[cell]?).any Cell.isPending = true
  · exact .inl (any_isPending_iff.mp pending)
  · exact .inr (if_neg pending)

/-- Only what was pending is settled, and nothing else with it. -/
theorem state?_settle_cases (m : Machine σ) (settled cell : CellId) (state : CellState) :
    settled = cell ∧ (m.settle settled state).toWorld.state? cell = some state ∧
        (∃ writer, m.toWorld.state? cell = some (.pending writer)) ∨
      (m.settle settled state).toWorld.state? cell = m.toWorld.state? cell := by
  rcases settle_cases m settled state with ⟨writer, pending⟩ | same
  · rw [state?_settle m settled cell state writer pending]
    split
    next here => exact .inl ⟨here, rfl, writer, here ▸ pending⟩
    next => exact .inr rfl
  · rw [same]
    exact .inr rfl

theorem persists_settle (m : Machine σ) (cell : CellId) (state : CellState) :
    Persists m (m.settle cell state) := by
  have either := state?_settle_cases m cell
  refine ⟨fun other present => ?_, fun other before stored final => ?_, ?_, ?_⟩
  · rcases either other state with ⟨_, now, _⟩ | same
    · rw [now]
      exact Option.some_ne_none state
    · rw [same]
      exact present
  · rcases either other state with ⟨_, _, writer, pending⟩ | same
    · cases pending.symm.trans stored
      exact absurd rfl (final writer)
    · exact same.trans stored
  · exact (entries_settle m cell state).symm ▸ List.suffix_rfl
  · rw [tasks_settle]
    exact fun id task found => ⟨task, found, rfl, rfl, fun ended => ended⟩

theorem persists_enter (m : Machine σ) (entry : Entry) : Persists m (m.enter entry) :=
  .of_eq (fun _ => rfl) (List.suffix_cons entry m.entries) rfl

theorem persists_spawn (m : Machine σ) (job : Job σ) : Persists m (m.spawn job) := by
  refine ⟨fun _ present => present, fun _ _ stored _ => stored, List.suffix_rfl, ?_⟩
  intro id task found
  have inside := (Array.getElem?_eq_some_iff.mp found).1
  refine ⟨task, ?_, rfl, rfl, fun ended => ended⟩
  simp only [spawn, Array.getElem?_push, Nat.ne_of_lt inside, ite_false, found]

theorem persists_setPhase (m : Machine σ) (id : TaskId) (phase : Phase)
    (going : ∀ task, m.tasks[id]? = some task → task.phase ≠ .ended) :
    Persists m (m.setPhase id phase) := by
  refine ⟨fun _ present => present, fun _ _ stored _ => stored, List.suffix_rfl, ?_⟩
  intro other task found
  rw [tasks_setPhase, found]
  split
  next same => exact ⟨_, rfl, rfl, rfl, fun ended => absurd ended (going task (same ▸ found))⟩
  next => exact ⟨task, rfl, rfl, rfl, fun ended => ended⟩

theorem persists_enroll (m : Machine σ) (scheduler : SchedulerId) (duration : Nat)
    (effect : TimerEffect σ) : Persists m (m.enroll scheduler duration effect) := by
  have scheduled : Persists m (m.setScheduler scheduler
      ((m.toWorld.scheduler scheduler).schedule m.tasks.size).2) :=
    .of_eq (fun _ => rfl) List.suffix_rfl rfl
  exact scheduled.trans (persists_spawn _ _)

theorem persists_cancel (m : Machine σ) (scheduler : SchedulerId) (table : TimerTable) (task : TaskId)
    (going : ∀ t, m.tasks[task]? = some t → t.phase ≠ .ended) :
    Persists m ((m.setScheduler scheduler table).cancel task) := by
  refine (persists_setPhase m task .cancelled going).trans (.of_eq (fun cell => ?_) ?_ ?_)
  · simp only [World.state?, cells_cancel]; rfl
  · exact (entries_cancel (m.setScheduler scheduler table) task).symm ▸ List.suffix_rfl
  · rw [tasks_cancel]; rfl

theorem persists_turn {m : Machine σ} {id : TaskId} {rest : List TaskId} {task : Task σ}
    (polled : Polled m id rest task) (live : task.phase ≠ .ended) (phase : Phase) :
    Persists m ({ m with ready := rest }.setPhase id phase) := by
  have queued : Persists m { m with ready := rest } := .of_eq (fun _ => rfl) List.suffix_rfl rfl
  refine queued.trans (persists_setPhase _ id phase fun other found => ?_)
  obtain rfl : task = other := Option.some.inj (polled.found.symm.trans found)
  exact live

theorem persists_callback {m n : Machine σ} {id : TaskId} {rest : List TaskId} {task : Task σ}
    (awake : Awake m id rest task) {entry : Entry}
    (states : ∀ cell, n.toWorld.state? cell = m.toWorld.state? cell)
    (entries : n.entries = entry :: m.entries) (tasks : n.tasks = (m.lastTurn id rest).tasks) :
    Persists m n := by
  have ended : Persists m (m.lastTurn id rest) := persists_turn awake.toPolled awake.live .ended
  refine ended.trans (.of_eq states ?_ tasks)
  rw [entries]
  exact List.suffix_cons entry m.entries

theorem Move.persists {m n : Machine σ} {call : Option (Call σ)} (move : Move m call n) :
    Persists m n := by
  cases move with
  | quiet | refuse => exact .refl m
  | function id arguments => exact persists_enter m _
  | scheduler | reserve | clearGone | skip | elapse => exact .of_eq (fun _ => rfl) List.suffix_rfl rfl
  | timeout scheduler duration callback => exact persists_enroll m scheduler duration _
  | delay | attach => exact (persists_newCell m _).trans (persists_spawn _ _)
  | countedDelay scheduler duration =>
    exact (persists_newCell m _).trans (persists_enroll _ scheduler duration _)
  | clear scheduler id task table held live => exact persists_cancel m scheduler table task live
  | create state => exact persists_newCell m state
  | settle cell state => exact persists_settle m cell state
  | conclude source target outcome =>
    have idle : Persists m { m with focus := .idle } := .of_eq (fun _ => rfl) List.suffix_rfl rfl
    exact idle.trans (persists_settle _ target _)
  | sleep id rest task duration awake => exact persists_turn awake.toPolled awake.live _
  | wait id rest task counter source target body writer awake =>
    exact persists_turn awake.toPolled awake.live _
  | stale id rest task scheduler timer duration effect awake =>
    exact persists_turn awake.toPolled awake.live _
  | fireCallback id rest task scheduler timer duration callback table awake =>
    exact persists_callback awake (fun _ => rfl) rfl rfl
  | fireDelay id rest task scheduler timer duration target value table awake =>
    refine .trans ?_ (persists_settle _ target _)
    exact persists_callback awake (fun _ => rfl) rfl rfl
  | finishDelay id rest task duration target value awake =>
    refine .trans ?_ (persists_settle _ target _)
    exact persists_callback awake (fun _ => rfl) rfl rfl
  | startBody id rest task source target body value time awake =>
    exact persists_callback awake (fun _ => rfl) rfl rfl
  | startCounted id rest task scheduler source target body value time awake =>
    exact persists_callback awake (fun _ => rfl) rfl rfl
  | drop id rest task polled cancelled => exact persists_turn polled (by simp [cancelled]) _
  | dropOwing id rest task target polled live =>
    exact (persists_turn polled live .ended).trans (persists_settle _ target _)

theorem Persists.invariant (first : Machine σ) :
    Invariant (σ := σ) (fun _ _ => True) fun _ m => Persists first m where
  alike alike persists := persists.trans alike.persists
  move _ move persists := persists.trans move.persists

theorem Traced.persists {first last : Machine σ} {history : List (Record σ)}
    (run : Traced first history last) : Persists first last :=
  (Persists.invariant first).traced run (fun _ => trivial) (.refl first)

end RuleHost.Loop.Machine
