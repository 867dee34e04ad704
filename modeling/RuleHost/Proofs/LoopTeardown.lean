import RuleHost.Proofs.LoopDebts
import RuleHost.Proofs.TaskRecords

/-! Taking a loop away. Every task that is left is dropped unrun, and what it owed is abandoned. Nothing
else that can be seen changes, so that what holds of a loop goes on to hold when it is gone. -/

namespace RuleHost.Loop

variable {σ : Type}

def Task.dropped (task : Task σ) : Task σ := { task with phase := .ended }

namespace Machine

theorem settle_frame (m : Machine σ) (cell : CellId) (state : CellState) :
    ∃ cells ready, m.settle cell state = { m with cells := cells, ready := ready } := by
  unfold settle
  split
  · exact ⟨_, _, rfl⟩
  · exact ⟨m.cells, m.ready, rfl⟩

theorem discard_frame (m : Machine σ) (id : TaskId) : ∃ cells tasks ready,
    m.discard id = { m with cells := cells, tasks := tasks, ready := ready } := by
  have settled (target : CellId) : ∃ cells tasks ready, (m.setPhase id .ended).abandon target =
      { m with cells := cells, tasks := tasks, ready := ready } := by
    obtain ⟨cells, ready, same⟩ := settle_frame (m.setPhase id .ended) target .abandoned
    exact ⟨cells, _, ready, same⟩
  unfold discard
  split
  · exact ⟨m.cells, m.tasks, m.ready, rfl⟩
  · split
    · exact ⟨m.cells, m.tasks, m.ready, rfl⟩
    · simp only
      split
      · exact ⟨m.cells, _, m.ready, rfl⟩
      · exact settled _
      · exact settled _
      next target _ _ =>
        obtain ⟨cells, tasks, ready, same⟩ := settled target
        rw [same]
        exact ⟨_, tasks, ready, rfl⟩

/-- The loop that is taken away leaves the clock, the timer tables, the callbacks, the log and all that
programs remember as they were. -/
theorem tearDown_frame (m : Machine σ) : ∃ cells tasks,
    m.tearDown = { m with cells := cells, tasks := tasks, ready := [], attached := false } := by
  have fold (ids : List TaskId) (m : Machine σ) : ∃ cells tasks ready,
      ids.foldl discard m = { m with cells := cells, tasks := tasks, ready := ready } := by
    induction ids generalizing m with
    | nil => exact ⟨m.cells, m.tasks, m.ready, rfl⟩
    | cons id rest ih =>
      obtain ⟨_, _, _, dropped⟩ := discard_frame m id
      obtain ⟨cells, tasks, ready, others⟩ := ih (m.discard id)
      refine ⟨cells, tasks, ready, ?_⟩
      rw [List.foldl_cons, others, dropped]
  obtain ⟨cells, tasks, ready, same⟩ := fold (List.range m.tasks.size) m
  refine ⟨cells, tasks, ?_⟩
  rw [tearDown, same]

section

variable (m : Machine σ)

@[simp] theorem now_tearDown : m.tearDown.now = m.now := by
  obtain ⟨_, _, same⟩ := tearDown_frame m
  rw [same]

@[simp] theorem schedulers_tearDown : m.tearDown.schedulers = m.schedulers := by
  obtain ⟨_, _, same⟩ := tearDown_frame m
  rw [same]

@[simp] theorem entries_tearDown : m.tearDown.entries = m.entries := by
  obtain ⟨_, _, same⟩ := tearDown_frame m
  rw [same]

@[simp] theorem focus_tearDown : m.tearDown.focus = m.focus := by
  obtain ⟨_, _, same⟩ := tearDown_frame m
  rw [same]

@[simp] theorem script_tearDown : m.tearDown.script = m.script := by
  obtain ⟨_, _, same⟩ := tearDown_frame m
  rw [same]

theorem scheduler_tearDown (scheduler : SchedulerId) :
    m.tearDown.toWorld.scheduler scheduler = m.toWorld.scheduler scheduler := by
  simp only [World.scheduler, schedulers_tearDown]

theorem debt?_tearDown : m.tearDown.debt? = m.debt? := by simp only [debt?, focus_tearDown]

end

/-- What it means to drop a task: nothing if it has ended, and else what it owes is lost. -/
inductive Discarded (m : Machine σ) (id : TaskId) : Prop where
  | finished (ended : ∀ task, m.tasks[id]? = some task → task.phase = .ended) (same : m.discard id = m)
  | unowing (task : Task σ) (found : m.tasks[id]? = some task) (live : task.phase ≠ .ended)
      (free : task.job.target? = none) (alike : Alike (m.setPhase id .ended) (m.discard id))
  | owing (task : Task σ) (target : CellId) (found : m.tasks[id]? = some task)
      (live : task.phase ≠ .ended) (owes : task.job.target? = some target)
      (alike : Alike ((m.setPhase id .ended).settle target .abandoned) (m.discard id))

theorem discard_ended {m : Machine σ} {id : TaskId}
    (ended : ∀ task, m.tasks[id]? = some task → task.phase = .ended) : m.discard id = m := by
  unfold discard
  cases found : m.tasks[id]? with
  | none => rfl
  | some task => simp [ended task found]

theorem discarded (m : Machine σ) (id : TaskId) : Discarded m id := by
  by_cases ended : ∀ task, m.tasks[id]? = some task → task.phase = .ended
  · exact .finished ended (discard_ended ended)
  · obtain ⟨task, going⟩ := Classical.not_forall.mp ended
    obtain ⟨found, live⟩ := Classical.not_imp.mp going
    have alike := discard_alike m id task found live
    cases owes : task.job.target? with
    | none =>
      rw [owes] at alike
      exact .unowing task found live owes alike
    | some target =>
      rw [owes] at alike
      exact .owing task target found live owes alike

theorem tasks_discard (m : Machine σ) (id other : TaskId) :
    (m.discard id).tasks[other]? =
      if id = other then (m.tasks[other]?).map Task.dropped else m.tasks[other]? := by
  cases discarded m id with
  | finished ended same =>
    rw [same]
    split
    next equal =>
      subst equal
      cases found : m.tasks[id]? with
      | none => rfl
      | some task =>
        have done := ended task found
        obtain ⟨job, phase, born⟩ := task
        subst done
        rfl
    next => rfl
  | unowing task found live free alike =>
    rw [alike.tasks]
    exact tasks_setPhase m id other .ended
  | owing task target found live owes alike =>
    rw [alike.tasks, tasks_settle]
    exact tasks_setPhase m id other .ended

theorem Owing.discard {m : Machine σ} (owing : Owing m) (idle : m.focus = .idle) (id : TaskId) :
    Owing (m.discard id) := by
  have phased {task : Task σ} (found : m.tasks[id]? = some task) (live : task.phase ≠ .ended) :
      Owing (m.setPhase id .ended) := by
    apply owing.setPhase id .ended
    intro other stored
    obtain rfl : task = other := Option.some.inj (found.symm.trans stored)
    exact live
  cases discarded m id with
  | finished ended same => rw [same]; exact owing
  | unowing task found live free alike =>
    exact (phased found live).same alike.tasks alike.states alike.debt
  | owing task target found live owes alike =>
    have stored : (m.setPhase id .ended).tasks[id]? = some task.dropped := by
      rw [tasks_setPhase, if_pos rfl, found]
      rfl
    have settled := (phased found live).discharge stored rfl owes (not_owed idle target) .abandoned
    exact settled.same alike.tasks alike.states alike.debt

def Owed (m : Machine σ) (ids : List TaskId) (cell : CellId) : Prop :=
  ∃ id ∈ ids, ∃ task, m.tasks[id]? = some task ∧ task.phase ≠ .ended ∧ task.job.target? = some cell

theorem state?_discard {m : Machine σ} (owing : Owing m) (id : TaskId) (cell : CellId) :
    (Owed m [id] cell → (m.discard id).toWorld.state? cell = some .abandoned) ∧
    (¬ Owed m [id] cell → (m.discard id).toWorld.state? cell = m.toWorld.state? cell) := by
  cases discarded m id with
  | finished ended same =>
    rw [same]
    refine ⟨?_, fun _ => rfl⟩
    rintro ⟨other, member, task, found, live, _⟩
    obtain rfl := List.mem_singleton.mp member
    exact absurd (ended task found) live
  | unowing task found live free alike =>
    rw [alike.states]
    refine ⟨?_, fun _ => rfl⟩
    rintro ⟨other, member, second, stored, _, owes⟩
    obtain rfl := List.mem_singleton.mp member
    obtain rfl := Option.some.inj (found.symm.trans stored)
    cases free.symm.trans owes
  | owing task target found live owes alike =>
    have pending : (m.setPhase id .ended).toWorld.state? target = some (.pending .task) :=
      owing.live id task target found live owes
    rw [alike.states, state?_settle _ target cell _ _ pending]
    refine ⟨?_, fun free => ?_⟩
    · rintro ⟨other, member, second, stored, _, shares⟩
      obtain rfl := List.mem_singleton.mp member
      obtain rfl := Option.some.inj (found.symm.trans stored)
      rw [if_pos (Option.some.inj (owes.symm.trans shares))]
    · rw [if_neg]
      · rfl
      · rintro rfl
        exact free ⟨id, List.mem_cons_self, task, found, live, owes⟩

/-- Once a task is dropped, a value that is still owed is owed by another one. -/
theorem owed_cons {m : Machine σ} {first : TaskId} {rest : List TaskId} {cell : CellId} :
    Owed m (first :: rest) cell ↔ Owed m [first] cell ∨ Owed (m.discard first) rest cell := by
  constructor
  · rintro ⟨id, member, task, found, live, owes⟩
    by_cases same : first = id
    · subst same
      exact .inl ⟨first, List.mem_cons_self, task, found, live, owes⟩
    · rcases List.mem_cons.mp member with rfl | other
      · exact absurd rfl same
      · refine .inr ⟨id, other, task, ?_, live, owes⟩
        rw [tasks_discard, if_neg same]
        exact found
  · rintro (⟨id, member, here⟩ | ⟨id, member, task, found, live, owes⟩)
    · exact ⟨id, List.mem_cons.mpr (.inl (List.mem_singleton.mp member)), here⟩
    · rw [tasks_discard] at found
      split at found
      · obtain ⟨old, _, rfl⟩ := Option.map_eq_some_iff.mp found
        exact absurd rfl live
      · exact ⟨id, List.mem_cons_of_mem first member, task, found, live, owes⟩

/-- What is owed is owed by one task only, so no later one takes the loss back. -/
theorem state?_discards (ids : List TaskId) {m : Machine σ} (owing : Owing m) (idle : m.focus = .idle)
    (cell : CellId) :
    (Owed m ids cell → (ids.foldl discard m).toWorld.state? cell = some .abandoned) ∧
    (¬ Owed m ids cell → (ids.foldl discard m).toWorld.state? cell = m.toWorld.state? cell) := by
  induction ids generalizing m with
  | nil => exact ⟨fun ⟨_, member, _⟩ => absurd member List.not_mem_nil, fun _ => rfl⟩
  | cons first rest ih =>
    have still : (m.discard first).focus = .idle := by
      obtain ⟨_, _, _, same⟩ := discard_frame m first
      rw [same]
      exact idle
    have left := owing.discard idle first
    have now := state?_discard owing first cell
    have later := ih left still
    rw [List.foldl_cons, owed_cons]
    refine ⟨?_, fun free => ?_⟩
    · rintro (here | there)
      · have lost := now.1 here
        rw [later.2]
        · exact lost
        · rintro ⟨id, _, task, found, live, owes⟩
          cases lost.symm.trans (left.live id task cell found live owes)
      · exact later.1 there
    · rw [later.2 fun there => free (.inr there), now.2 fun here => free (.inl here)]

theorem tasks_discards (ids : List TaskId) (m : Machine σ) (id : TaskId) :
    (ids.foldl discard m).tasks[id]? =
      if id ∈ ids then (m.tasks[id]?).map Task.dropped else m.tasks[id]? := by
  induction ids generalizing m with
  | nil => simp
  | cons first rest ih =>
    rw [List.foldl_cons, ih, tasks_discard]
    by_cases same : first = id
    · subst same
      cases m.tasks[first]? <;> simp [Task.dropped]
    · simp [same, Ne.symm same]

theorem tasks_tearDown (m : Machine σ) (id : TaskId) :
    m.tearDown.tasks[id]? = (m.tasks[id]?).map Task.dropped := by
  have dropped := tasks_discards (List.range m.tasks.size) m id
  by_cases inside : id < m.tasks.size
  · rw [if_pos (List.mem_range.mpr inside)] at dropped
    exact dropped
  · rw [if_neg (by simp [inside])] at dropped
    have absent : m.tasks[id]? = none := Array.getElem?_eq_none (Nat.le_of_not_lt inside)
    rw [absent]
    exact dropped.trans absent

theorem found_tearDown {m : Machine σ} {id : TaskId} {task : Task σ}
    (found : m.tearDown.tasks[id]? = some task) :
    ∃ old, m.tasks[id]? = some old ∧ task = old.dropped := by
  rw [tasks_tearDown] at found
  obtain ⟨old, stored, same⟩ := Option.map_eq_some_iff.mp found
  exact ⟨old, stored, same.symm⟩

theorem state?_tearDown_owed {m : Machine σ} (owing : Owing m) (idle : m.focus = .idle) {id : TaskId}
    {task : Task σ} {cell : CellId} (found : m.tasks[id]? = some task) (live : task.phase ≠ .ended)
    (owes : task.job.target? = some cell) : m.tearDown.toWorld.state? cell = some .abandoned := by
  have inside := (Array.getElem?_eq_some_iff.mp found).1
  have dropped := state?_discards (List.range m.tasks.size) owing idle cell
  exact dropped.1 ⟨id, List.mem_range.mpr inside, task, found, live, owes⟩

/-- A value is abandoned with its task, or it stays as it is. -/
theorem state?_tearDown {m : Machine σ} (owing : Owing m) (idle : m.focus = .idle) (cell : CellId) :
    m.toWorld.state? cell = some (.pending .task) ∧ m.tearDown.toWorld.state? cell = some .abandoned ∨
      m.tearDown.toWorld.state? cell = m.toWorld.state? cell := by
  by_cases owed : Owed m (List.range m.tasks.size) cell
  · obtain ⟨id, _, task, found, live, owes⟩ := owed
    exact .inl ⟨owing.live id task cell found live owes,
      state?_tearDown_owed owing idle found live owes⟩
  · exact .inr ((state?_discards (List.range m.tasks.size) owing idle cell).2 owed)

theorem persists_tearDown {m : Machine σ} (owing : Owing m) (idle : m.focus = .idle) :
    Persists m m.tearDown := by
  have states := state?_tearDown owing idle
  refine ⟨fun cell present => ?_, fun cell state stored final => ?_, ?_, fun id task found => ?_⟩
  · rcases states cell with ⟨_, lost⟩ | same
    · rw [lost]; exact Option.some_ne_none _
    · rw [same]; exact present
  · rcases states cell with ⟨pending, _⟩ | same
    · cases stored.symm.trans pending
      exact absurd rfl (final .task)
    · rw [same]; exact stored
  · exact (entries_tearDown m).symm ▸ List.suffix_rfl
  · exact ⟨task.dropped, by rw [tasks_tearDown, found]; rfl, rfl, rfl, fun _ => rfl⟩

theorem Owing.tearDown {m : Machine σ} (owing : Owing m) (idle : m.focus = .idle) :
    Owing m.tearDown := by
  have persists := persists_tearDown owing idle
  refine ⟨?_, ?_, ?_, ?_, ?_⟩
  · intro id task target found owes
    obtain ⟨old, stored, rfl⟩ := found_tearDown found
    exact persists.exist target (owing.targets id old target stored owes)
  · intro id task found counter source target body job
    obtain ⟨old, stored, rfl⟩ := found_tearDown found
    exact persists.exist source (owing.sources id old stored counter source target body job)
  · intro id other task second target found stored owes shares
    obtain ⟨old, before, rfl⟩ := found_tearDown found
    obtain ⟨older, earlier, rfl⟩ := found_tearDown stored
    exact owing.apart id other old older target before earlier owes shares
  · intro id task target found live
    obtain ⟨old, _, rfl⟩ := found_tearDown found
    exact absurd rfl live
  · intro target running
    rw [debt?_tearDown] at running
    exact absurd running (not_owed idle target)

theorem Filed.tearDown {history : List (Record σ)} {m : Machine σ} (filed : Filed history m) :
    Filed history m.tearDown := by
  refine Eq.trans ?_ filed
  apply List.ext_getElem?
  intro id
  simp only [List.getElem?_map, Array.getElem?_toList, tasks_tearDown]
  cases m.tasks[id]? <;> rfl

end Machine
end RuleHost.Loop
