import RuleHost.Proofs.LoopClock
import RuleHost.Proofs.TaskRecords

/-! What tasks leave behind when they have ended: the callback that was entered, at its exact time, and the
value that was owed. Nothing of it is ever taken back. -/

namespace RuleHost.Loop.Machine

variable {σ : Type}

/-- What a task that has ended leaves behind for good. -/
inductive Concluded (history : List (Record σ)) (m : Machine σ) (born : Nat) : Job σ → Prop where
  | called {scheduler : SchedulerId} {id : TimerId} {duration : Nat} {callback : Program σ}
      (entered : .timer scheduler id (born + duration) ∈ m.entries) :
      Concluded history m born (.timer scheduler id duration (.run callback))
  | resolved {scheduler : SchedulerId} {id : TimerId} {duration : Nat} {target : CellId}
      {value : Value} (entered : .timer scheduler id (born + duration) ∈ m.entries)
      (left : m.toWorld.state? target = some (.resolved value (born + duration))) :
      Concluded history m born (.timer scheduler id duration (.resolve target value))
  | cleared {scheduler : SchedulerId} {id : TimerId} {duration : Nat} {effect : TimerEffect σ}
      (taken : 0 < clearings scheduler id history)
      (left : ∀ target value, effect = .resolve target value →
        m.toWorld.state? target = some .abandoned) :
      Concluded history m born (.timer scheduler id duration effect)
  | delayed {duration : Nat} {target : CellId} {value : Value}
      (entered : .delay target (born + duration) ∈ m.entries)
      (left : m.toWorld.state? target = some (.resolved value (born + duration))) :
      Concluded history m born (.delay duration target value)
  | continued {counter : Option SchedulerId} {source target : CellId} {body : Value → Program σ}
      {value : Value} {time : Nat} {outcome : Outcome}
      (awaited : m.toWorld.state? source = some (.resolved value time))
      (entered : .continuation source target value (max born time) ∈ m.entries)
      (answered : ⟨max born time, .answer target outcome⟩ ∈ history)
      (left : m.toWorld.state? target = some (.ofOutcome (max born time) outcome)) :
      Concluded history m born (.continuation counter source target body)
  | lost {counter : Option SchedulerId} {source target : CellId} {body : Value → Program σ}
      (awaited : m.toWorld.state? source = some .abandoned)
      (left : m.toWorld.state? target = some .abandoned) :
      Concluded history m born (.continuation counter source target body)

inductive Underway (m : Machine σ) (born : Nat) : Job σ → Prop where
  | running {counter : Option SchedulerId} {source target : CellId} {body : Value → Program σ}
      {value : Value} {time : Nat}
      (awaited : m.toWorld.state? source = some (.resolved value time))
      (entered : .continuation source target value (max born time) ∈ m.entries)
      (owed : m.debt? = some target) (now : m.now = max born time) :
      Underway m born (.continuation counter source target body)

def Held (m : Machine σ) (id : TaskId) (scheduler : SchedulerId) (timer : TimerId) : Prop :=
  ∃ (task : Task σ) (duration : Nat) (effect : TimerEffect σ), m.tasks[id]? = some task ∧
    task.job = .timer scheduler timer duration effect ∧ task.phase ≠ .ended ∧ task.phase ≠ .cancelled

/-- A task keeps to its table while it waits and to what it leaves behind when it has ended. -/
structure Accounted (history : List (Record σ)) (m : Machine σ) (id : TaskId) (task : Task σ) :
    Prop where
  pending : ∀ scheduler timer duration effect, task.job = .timer scheduler timer duration effect →
    task.phase ≠ .ended → task.phase ≠ .cancelled →
      (m.toWorld.scheduler scheduler).pending.find? timer = some id
  cancelled : task.phase = .cancelled → ∃ scheduler timer duration effect,
    task.job = .timer scheduler timer duration effect ∧ 0 < clearings scheduler timer history
  ended : task.phase = .ended → Concluded history m task.born task.job ∨ Underway m task.born task.job

def Due (m : Machine σ) : Entry → Prop
  | .timer scheduler timer time => ∃ (id : TaskId) (task : Task σ) (duration : Nat)
      (effect : TimerEffect σ), m.tasks[id]? = some task ∧
        task.job = .timer scheduler timer duration effect ∧ time = task.born + duration
  | .delay target time => ∃ (id : TaskId) (task : Task σ) (duration : Nat) (value : Value),
      m.tasks[id]? = some task ∧ task.job = .delay duration target value ∧ time = task.born + duration
  | .continuation source target value time => ∃ (id : TaskId) (task : Task σ)
      (counter : Option SchedulerId) (body : Value → Program σ) (settled : Nat),
      m.tasks[id]? = some task ∧ task.job = .continuation counter source target body ∧
        m.toWorld.state? source = some (.resolved value settled) ∧ time = max task.born settled
  | .function _ _ _ => True

/-- Every task is accounted for, every timer in a table has a task that waits for it, and every callback
was entered by a task. -/
structure Standing (history : List (Record σ)) (m : Machine σ) : Prop where
  tasks : ∀ (id : TaskId) (task : Task σ), m.tasks[id]? = some task → Accounted history m id task
  held : ∀ scheduler timer id, (m.toWorld.scheduler scheduler).pending.find? timer = some id →
    Held m id scheduler timer
  entered : ∀ entry ∈ m.entries, Due m entry

theorem Concluded.persists {history after : List (Record σ)} {m n : Machine σ} {born : Nat}
    {job : Job σ} (concluded : Concluded history m born job) (persists : Persists m n)
    (suffix : history <:+ after) : Concluded after n born job := by
  have entries {entry : Entry} (member : entry ∈ m.entries) : entry ∈ n.entries :=
    persists.entries.mem member
  cases concluded with
  | called entered => exact .called (entries entered)
  | resolved entered left => exact .resolved (entries entered) (persists.resolved left)
  | cleared taken left =>
    refine .cleared (Nat.lt_of_lt_of_le taken suffix.sublist.countP_le) ?_
    intro target value effect
    exact persists.abandoned (left target value effect)
  | delayed entered left => exact .delayed (entries entered) (persists.resolved left)
  | continued awaited entered answered left =>
    refine .continued (persists.resolved awaited) (entries entered) (suffix.mem answered)
      (persists.settled _ _ left ?_)
    exact CellState.ofOutcome_ne_pending _ _
  | lost awaited left =>
    exact .lost (persists.abandoned awaited) (persists.abandoned left)

theorem Underway.persists {m n : Machine σ} {born : Nat} {job : Job σ} (underway : Underway m born job)
    (persists : Persists m n) (now : n.now = m.now) (debt : n.debt? = m.debt?) :
    Underway n born job := by
  cases underway with
  | running awaited entered owed exact =>
    exact .running (persists.resolved awaited) (persists.entries.mem entered)
      (debt.trans owed) (now.trans exact)

theorem not_underway {m : Machine σ} (idle : m.focus = .idle) {born : Nat} {job : Job σ} :
    ¬ Underway m born job := by
  rintro ⟨_, _, owed, _⟩
  cases (debt?_idle idle).symm.trans owed

theorem Due.persists {m n : Machine σ} {entry : Entry} (due : Due m entry) (persists : Persists m n) :
    Due n entry := by
  cases entry with
  | timer scheduler timer time =>
    obtain ⟨id, task, duration, effect, found, job, exact⟩ := due
    obtain ⟨later, stored, born, work, _⟩ := persists.tasks id task found
    exact ⟨id, later, duration, effect, stored, work.trans job, born ▸ exact⟩
  | delay target time =>
    obtain ⟨id, task, duration, value, found, job, exact⟩ := due
    obtain ⟨later, stored, born, work, _⟩ := persists.tasks id task found
    exact ⟨id, later, duration, value, stored, work.trans job, born ▸ exact⟩
  | continuation source target value time =>
    obtain ⟨id, task, counter, body, settled, found, job, awaited, exact⟩ := due
    obtain ⟨later, stored, born, work, _⟩ := persists.tasks id task found
    exact ⟨id, later, counter, body, settled, stored, work.trans job,
      persists.resolved awaited, born ▸ exact⟩
  | function => trivial

end RuleHost.Loop.Machine
