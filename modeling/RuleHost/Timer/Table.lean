import RuleHost.Table

/-! The timer table of a loop: which timers are waiting, the numbers handed out so far, and how many
timers were scheduled, fired and cleared. An entry leaves the table when its timer fires or is
cleared. -/

namespace RuleHost

structure TimerId where
  number : Nat
deriving DecidableEq

def TimerId.display (id : TimerId) : String := s!"Timer({id.number})"

/-- Hands out timer numbers in order, from 1 on. -/
structure TimerIds where
  next : Nat := 1
deriving DecidableEq

namespace TimerIds

def issue (ids : TimerIds) : TimerId × TimerIds := (⟨ids.next⟩, ⟨ids.next + 1⟩)

def issued (ids : TimerIds) (id : TimerId) : Bool := 1 ≤ id.number && id.number < ids.next

theorem issued_iff {ids : TimerIds} {id : TimerId} :
    ids.issued id = true ↔ 1 ≤ id.number ∧ id.number < ids.next := by
  simp [issued]

/-- A number that was handed out stays so when another one is. -/
theorem issued_issue {ids : TimerIds} {id : TimerId} (known : ids.issued id = true) :
    ids.issue.2.issued id = true := by
  rw [issued_iff] at known ⊢
  exact ⟨known.1, Nat.lt_succ_of_lt known.2⟩

def debug (ids : TimerIds) : String := "TimerIdGenerator \x7b next_id: " ++ toString ids.next ++ " \x7d"

end TimerIds

structure TimerStats where
  scheduled : Nat := 0
  fired : Nat := 0
  cancelled : Nat := 0
  continuations : Nat := 0
deriving DecidableEq

namespace TimerStats

/-- The timers that have neither fired nor been cleared. -/
def outstanding (stats : TimerStats) : Nat := stats.scheduled - stats.fired - stats.cancelled

def debug (stats : TimerStats) : String :=
  "SchedulerStats \x7b timers_scheduled: " ++ toString stats.scheduled ++
    ", timers_fired: " ++ toString stats.fired ++
    ", timers_cancelled: " ++ toString stats.cancelled ++
    ", continuations_run: " ++ toString stats.continuations ++ " \x7d"

end TimerStats

/-- What is known of a timer number that was handed out. A finished timer is not remembered, so firing
and clearing look alike. -/
inductive TimerState where
  | pending | finished
deriving DecidableEq

/-- The timers of one scheduler. A pending timer names the task that waits for it. -/
structure TimerTable where
  ids : TimerIds := {}
  pending : Table TimerId Nat := .empty
  stats : TimerStats := {}

namespace TimerTable

/-- Takes a number without entering a timer, as a scheduling that fails half way does. -/
def reserve (t : TimerTable) : TimerTable := { t with ids := t.ids.issue.2 }

def schedule (t : TimerTable) (task : Nat) : TimerId × TimerTable :=
  (t.ids.issue.1,
    { ids := t.ids.issue.2
      pending := t.pending.insert t.ids.issue.1 task
      stats := { t.stats with scheduled := t.stats.scheduled + 1 } })

/-- Takes a due timer out of the table, or nothing if it is not pending any more. -/
def fire? (t : TimerTable) (id : TimerId) : Option TimerTable :=
  if t.pending.contains id then
    some { t with
      pending := t.pending.erase id
      stats := { t.stats with fired := t.stats.fired + 1 } }
  else none

/-- Takes a pending timer out of the table and names the task that waited for it. -/
def clear? (t : TimerTable) (id : TimerId) : Option (Nat × TimerTable) :=
  (t.pending.find? id).map fun task =>
    (task, { t with
      pending := t.pending.erase id
      stats := { t.stats with cancelled := t.stats.cancelled + 1 } })

def countContinuation (t : TimerTable) : TimerTable :=
  { t with stats := { t.stats with continuations := t.stats.continuations + 1 } }

/-- The state of a timer, or nothing for a number that was never handed out. -/
def state? (t : TimerTable) (id : TimerId) : Option TimerState :=
  if t.pending.contains id then some .pending
  else if t.ids.issued id then some .finished
  else none

def debug (t : TimerTable) : String :=
  let timers := ", ".intercalate (t.pending.entries.map fun entry =>
    s!"TimerId({entry.1.number}): task {entry.2}")
  "Scheduler \x7b inner: RefCell \x7b value: SchedulerInner \x7b ids: " ++ t.ids.debug ++
    ", timers: \x7b" ++ timers ++ "\x7d, stats: " ++ t.stats.debug ++ " \x7d \x7d \x7d"

end TimerTable
end RuleHost
