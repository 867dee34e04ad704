import RuleHost.Proofs.LoopSteps

/-! What becomes of every timer number that a scheduler hands out. A number is pending, or its callback
was entered, or it was cleared, and never two of these; the statistics add up accordingly. This holds
through every order of turns, and also where loops are left and entered again. -/

namespace RuleHost.Loop

variable {σ : Type}

def Entry.isTimer (scheduler : SchedulerId) : Entry → Bool
  | .timer other _ _ => other == scheduler
  | _ => false

def Entry.fires (scheduler : SchedulerId) (id : TimerId) : Entry → Bool
  | .timer other fired _ => other == scheduler && fired == id
  | _ => false

def Call.issues? (scheduler : SchedulerId) : Call σ → Option TimerId
  | .timeout other _ _ id => if other = scheduler then some id else none
  | .countedDelay other _ _ id _ => if other = scheduler then some id else none
  | _ => none

def Call.clears (scheduler : SchedulerId) (id : TimerId) : Call σ → Bool
  | .clear other cleared found => found && other == scheduler && cleared == id
  | _ => false

/-- The timer numbers that a scheduler has handed out, newest first. -/
def issued (scheduler : SchedulerId) (history : List (Record σ)) : List TimerId :=
  history.filterMap fun record => record.call.issues? scheduler

def clearings (scheduler : SchedulerId) (id : TimerId) (history : List (Record σ)) : Nat :=
  history.countP fun record => record.call.clears scheduler id

def firings (scheduler : SchedulerId) (id : TimerId) (entries : List Entry) : Nat :=
  entries.countP (Entry.fires scheduler id)

/-- The table of a scheduler agrees with the numbers that the calls were given and with what became of
them. -/
structure Books (scheduler : SchedulerId) (table : TimerTable) (history : List (Record σ))
    (entries : List Entry) : Prop where
  balance : table.stats.scheduled =
    table.stats.fired + table.stats.cancelled + table.pending.size
  entered : table.stats.fired = entries.countP (Entry.isTimer scheduler)
  started : 1 ≤ table.ids.next
  ascending : (issued scheduler history).Pairwise fun newer older => older.number < newer.number
  known : ∀ id ∈ issued scheduler history, table.ids.issued id = true
  once : ∀ id, (issued scheduler history).count id =
    (if table.pending.contains id then 1 else 0) + firings scheduler id entries +
      clearings scheduler id history

namespace Books

variable {scheduler : SchedulerId} {table next : TimerTable} {history : List (Record σ)}
  {entries : List Entry}

theorem empty (scheduler : SchedulerId) : Books (σ := σ) scheduler {} [] [] :=
  ⟨rfl, rfl, Nat.le_refl 1, .nil, by simp [issued], by intro id; rfl⟩

theorem reserve (books : Books scheduler table history entries) :
    Books scheduler table.reserve history entries :=
  ⟨books.balance, books.entered, Nat.le_succ_of_le books.started, books.ascending,
    fun id member => TimerIds.issued_issue (books.known id member), books.once⟩

theorem countContinuation (books : Books scheduler table history entries) :
    Books scheduler table.countContinuation history entries :=
  ⟨books.balance, books.entered, books.started, books.ascending, books.known, books.once⟩

theorem entry (books : Books scheduler table history entries) {entry : Entry}
    (other : entry.isTimer scheduler = false) : Books scheduler table history (entry :: entries) := by
  have unfired : ∀ id, entry.fires scheduler id = false := by
    intro id
    cases entry <;> simp_all [Entry.isTimer, Entry.fires]
  refine ⟨books.balance, ?_, books.started, books.ascending, books.known, ?_⟩
  · simpa [List.countP_cons, other] using books.entered
  · intro id
    simpa [firings, List.countP_cons, unfired] using books.once id

theorem record (books : Books scheduler table history entries) {record : Record σ}
    (unissued : record.call.issues? scheduler = none)
    (uncleared : ∀ id, record.call.clears scheduler id = false) :
    Books scheduler table (record :: history) entries := by
  have same : issued scheduler (record :: history) = issued scheduler history := by
    simp [issued, unissued]
  refine ⟨books.balance, books.entered, books.started, ?_, ?_, ?_⟩
  · simpa only [same] using books.ascending
  · simpa only [same] using books.known
  · intro id
    simpa [same, clearings, List.countP_cons, uncleared] using books.once id

theorem fresh (books : Books scheduler table history entries) :
    table.ids.issue.1 ∉ issued scheduler history := by
  intro member
  exact Nat.lt_irrefl _ (TimerIds.issued_iff.mp (books.known _ member)).2

theorem absent (books : Books scheduler table history entries) {id : TimerId}
    (unknown : id ∉ issued scheduler history) : id ∉ table.pending.keys ∧
      firings scheduler id entries = 0 ∧ clearings scheduler id history = 0 := by
  have none := books.once id
  rw [List.count_eq_zero_of_not_mem unknown] at none
  refine ⟨?_, by omega, by omega⟩
  intro member
  rw [if_pos (Table.contains_eq_true_iff.mpr member)] at none
  omega

theorem nodup (books : Books scheduler table history entries) : (issued scheduler history).Nodup := by
  apply books.ascending.imp
  intro newer older less same
  subst same
  exact Nat.lt_irrefl _ less

/-- A number that was handed out is pending, or it has fired or was cleared once. -/
theorem fate (books : Books scheduler table history entries) {id : TimerId}
    (handed : id ∈ issued scheduler history) :
    (if table.pending.contains id then 1 else 0) + firings scheduler id entries +
      clearings scheduler id history = 1 := by
  rw [← books.once id, books.nodup.count, if_pos handed]

theorem handed (books : Books scheduler table history entries) {id : TimerId}
    (pending : id ∈ table.pending.keys) : id ∈ issued scheduler history :=
  Decidable.byContradiction fun unknown => (books.absent unknown).1 pending

theorem mem_pending_iff (books : Books scheduler table history entries) {id : TimerId} :
    id ∈ table.pending.keys ↔ id ∈ issued scheduler history ∧
      firings scheduler id entries = 0 ∧ clearings scheduler id history = 0 := by
  constructor
  · intro pending
    have fate := books.fate (books.handed pending)
    rw [if_pos (Table.contains_eq_true_iff.mpr pending)] at fate
    exact ⟨books.handed pending, by omega, by omega⟩
  · rintro ⟨handed, unfired, uncleared⟩
    have fate := books.fate handed
    apply Decidable.byContradiction
    intro absent
    rw [if_neg fun held => absent (Table.contains_eq_true_iff.mp held)] at fate
    omega

/-- As many timers are pending as were handed out and have neither fired nor been cleared. -/
theorem pending_size (books : Books scheduler table history entries) :
    table.pending.size = (issued scheduler history).countP fun id =>
      firings scheduler id entries = 0 ∧ clearings scheduler id history = 0 := by
  rw [Table.size_eq_length_keys, List.countP_eq_length_filter]
  apply List.Perm.length_eq
  rw [List.perm_ext_iff_of_nodup table.pending.keys_nodup (books.nodup.filter _)]
  intro id
  rw [books.mem_pending_iff, List.mem_filter, decide_eq_true_iff]

theorem schedule (books : Books scheduler table history entries) (task : Nat) {record : Record σ}
    (taken : record.call.issues? scheduler = some table.ids.issue.1)
    (uncleared : ∀ id, record.call.clears scheduler id = false) :
    Books scheduler (table.schedule task).2 (record :: history) entries := by
  obtain ⟨absent, unfired, unclear⟩ := books.absent books.fresh
  have grown : issued scheduler (record :: history) =
      table.ids.issue.1 :: issued scheduler history := by simp [issued, taken]
  have cleared : ∀ id, clearings scheduler id (record :: history) =
      clearings scheduler id history := by simp [clearings, uncleared]
  refine ⟨?_, books.entered, Nat.le_succ_of_le books.started, ?_, ?_, ?_⟩
  · have size := Table.size_insert_of_not_mem task absent
    have balance := books.balance
    simp only [TimerTable.schedule]
    omega
  · rw [grown]
    refine List.pairwise_cons.mpr ⟨?_, books.ascending⟩
    intro id member
    exact (TimerIds.issued_iff.mp (books.known id member)).2
  · rw [grown]
    intro id member
    rcases List.mem_cons.mp member with rfl | member
    · exact TimerIds.issued_iff.mpr ⟨books.started, Nat.lt_succ_self _⟩
    · exact TimerIds.issued_issue (books.known id member)
  · intro id
    have once := books.once id
    simp only [TimerTable.schedule, Table.contains_insert, grown, cleared, List.count_cons, beq_iff_eq]
    by_cases same : table.ids.issue.1 = id
    · subst same
      rw [List.count_eq_zero_of_not_mem books.fresh]
      simp [unfired, unclear]
    · simpa [same] using once

private theorem pending_erase (table : TimerTable) (id other : TimerId)
    (held : table.pending.contains id = true) :
    (if table.pending.contains other then 1 else 0) =
      (if (table.pending.erase id).contains other then 1 else 0) + if id = other then 1 else 0 := by
  rw [Table.contains_erase]
  by_cases same : id = other
  · subst same; simp [held]
  · simp [same]

theorem fire (books : Books scheduler table history entries) {id : TimerId} (time : Nat)
    (taken : table.fire? id = some next) :
    Books scheduler next history (.timer scheduler id time :: entries) := by
  unfold TimerTable.fire? at taken
  split at taken
  next held =>
    cases taken
    refine ⟨?_, ?_, books.started, books.ascending, books.known, ?_⟩
    · have shrunk := Table.size_erase_of_mem (Table.contains_eq_true_iff.mp held)
      have balance := books.balance
      simp only
      omega
    · simp [books.entered, Entry.isTimer]
    · intro other
      rw [books.once other, pending_erase table id other held]
      simp only [firings, List.countP_cons, Entry.fires, beq_self_eq_true, Bool.true_and, beq_iff_eq]
      omega
  next => cases taken

theorem clear (books : Books scheduler table history entries) {id : TimerId} {task : Nat}
    (time : Nat) (taken : table.clear? id = some (task, next)) :
    Books scheduler next (⟨time, .clear scheduler id true⟩ :: history) entries := by
  obtain ⟨found, held, same⟩ := Option.map_eq_some_iff.mp taken
  cases same
  have held : table.pending.contains id = true := by simp [Table.contains_eq_isSome, held]
  have ids : issued scheduler (⟨time, .clear scheduler id true⟩ :: history) =
      issued scheduler history := by simp [issued, Call.issues?]
  refine ⟨?_, books.entered, books.started, ?_, ?_, ?_⟩
  · have shrunk := Table.size_erase_of_mem (Table.contains_eq_true_iff.mp held)
    have balance := books.balance
    simp only
    omega
  · rw [ids]; exact books.ascending
  · rw [ids]; exact books.known
  · intro other
    rw [ids, books.once other, pending_erase table id other held]
    simp only [clearings, List.countP_cons, Call.clears, beq_self_eq_true, Bool.true_and, beq_iff_eq]
    omega

end Books

namespace Machine

def Ledger (history : List (Record σ)) (m : Machine σ) : Prop :=
  ∀ scheduler, Books scheduler (m.toWorld.scheduler scheduler) history m.entries

theorem scheduler_unknown {w : World} {scheduler : SchedulerId}
    (unknown : ¬ scheduler < w.schedulers.size) : w.scheduler scheduler = {} := by
  simp [World.scheduler, unknown]

theorem known_of_fire {w : World} {scheduler : SchedulerId} {id : TimerId} {table : TimerTable}
    (fired : (w.scheduler scheduler).fire? id = some table) : scheduler < w.schedulers.size := by
  apply Decidable.byContradiction
  intro unknown
  rw [scheduler_unknown unknown] at fired
  cases fired

theorem known_of_clear {w : World} {scheduler : SchedulerId} {id : TimerId}
    {found : TaskId × TimerTable} (held : (w.scheduler scheduler).clear? id = some found) :
    scheduler < w.schedulers.size := by
  apply Decidable.byContradiction
  intro unknown
  rw [scheduler_unknown unknown] at held
  cases held

theorem scheduler_push (w : World) (scheduler : SchedulerId) :
    { w with schedulers := w.schedulers.push {} }.scheduler scheduler = w.scheduler scheduler := by
  simp only [World.scheduler, Array.getElem?_push]
  split
  next last => simp [last]
  next => rfl

namespace Ledger

variable {history : List (Record σ)} {m n : Machine σ}

theorem same (ledger : Ledger history m) (tables : n.schedulers = m.schedulers)
    (entries : n.entries = m.entries) : Ledger history n := by
  intro scheduler
  have books := ledger scheduler
  simpa only [World.scheduler, tables, entries] using books

theorem enter (ledger : Ledger history m) {entry : Entry} (tables : n.schedulers = m.schedulers)
    (entries : n.entries = entry :: m.entries)
    (untimed : ∀ scheduler, entry.isTimer scheduler = false) : Ledger history n := by
  intro scheduler
  have books := (ledger scheduler).entry (untimed scheduler)
  simpa only [World.scheduler, tables, entries] using books

/-- Where one table changes, its own books have to be right, and the others must not be concerned. -/
theorem update {after : List (Record σ)} {changed : SchedulerId} {table : TimerTable}
    (known : changed < m.schedulers.size)
    (tables : n.schedulers = (m.setScheduler changed table).schedulers)
    (here : Books changed table after n.entries)
    (elsewhere : ∀ other, other ≠ changed →
      Books other (m.toWorld.scheduler other) after n.entries) : Ledger after n := by
  intro scheduler
  rw [scheduler_of_tables known tables]
  split
  next same => subst same; exact here
  next differ => exact elsewhere scheduler (Ne.symm differ)

theorem startTimer (ledger : Ledger history m) {scheduler : SchedulerId} {record : Record σ} {task : Nat}
    (known : scheduler < m.schedulers.size)
    (tables : n.schedulers = (m.setScheduler scheduler
      ((m.toWorld.scheduler scheduler).schedule task).2).schedulers)
    (entries : n.entries = m.entries)
    (taken : ∀ other, record.call.issues? other =
      if scheduler = other then some (m.toWorld.scheduler scheduler).ids.issue.1 else none)
    (uncleared : ∀ other id, record.call.clears other id = false) :
    Ledger (record :: history) n := by
  refine update known tables ?_ ?_
  · rw [entries]
    exact (ledger scheduler).schedule task (by simp [taken]) (uncleared scheduler)
  · intro other differ
    rw [entries]
    exact (ledger other).record (by simp [taken, Ne.symm differ]) (uncleared other)

theorem fire (ledger : Ledger history m) {scheduler : SchedulerId} {id : TimerId} {time : Nat}
    {table : TimerTable} (fired : (m.toWorld.scheduler scheduler).fire? id = some table)
    (tables : n.schedulers = (m.setScheduler scheduler table).schedulers)
    (entries : n.entries = .timer scheduler id time :: m.entries) : Ledger history n := by
  refine update (known_of_fire fired) tables ?_ ?_
  · rw [entries]
    exact (ledger scheduler).fire time fired
  · intro other differ
    rw [entries]
    exact (ledger other).entry (by simp [Entry.isTimer, Ne.symm differ])

theorem clear (ledger : Ledger history m) {scheduler : SchedulerId} {id : TimerId} {task : TaskId}
    {table : TimerTable} (held : (m.toWorld.scheduler scheduler).clear? id = some (task, table))
    (tables : n.schedulers = (m.setScheduler scheduler table).schedulers)
    (entries : n.entries = m.entries) :
    Ledger (⟨m.now, .clear scheduler id true⟩ :: history) n := by
  refine update (known_of_clear held) tables ?_ ?_
  · rw [entries]
    exact (ledger scheduler).clear m.now held
  · intro other differ
    rw [entries]
    exact (ledger other).record rfl (by simp [Call.clears, Ne.symm differ])

theorem count (ledger : Ledger history m) (scheduler : SchedulerId) :
    Ledger history (m.setScheduler scheduler (m.toWorld.scheduler scheduler).countContinuation) := by
  by_cases known : scheduler < m.schedulers.size
  · exact update known rfl (ledger scheduler).countContinuation fun other _ => ledger other
  · rw [setScheduler_unknown known]
    exact ledger

end Ledger

theorem Ledger.invariant : Invariant (σ := σ) (fun _ _ => True) Ledger where
  alike alike ledger := ledger.same alike.schedulers alike.entries
  move := by
    intro history m n call _ move ledger
    cases move with
    | quiet => exact ledger
    | function id arguments => exact ledger.enter rfl rfl fun _ => rfl
    | scheduler =>
      intro scheduler
      rw [scheduler_push]
      exact ledger scheduler
    | reserve scheduler known =>
      exact .update known rfl (ledger scheduler).reserve fun other _ => ledger other
    | timeout scheduler duration callback known =>
      exact ledger.startTimer known rfl rfl (fun _ => rfl) fun _ _ => rfl
    | delay duration value => exact fun scheduler => (ledger scheduler).record rfl fun _ => rfl
    | countedDelay scheduler duration value known =>
      exact ledger.startTimer known rfl rfl (fun _ => rfl) fun _ _ => rfl
    | attach counter source body known inside =>
      exact fun scheduler => (ledger scheduler).record rfl fun _ => rfl
    | refuse scheduler id absent => exact fun other => (ledger other).record rfl fun _ => rfl
    | clear scheduler id task table held live =>
      exact ledger.clear held (schedulers_cancel _ _) (entries_cancel _ _)
    | clearGone scheduler id task table held gone => exact ledger.clear held rfl rfl
    | create state lawful => exact ledger.same rfl rfl
    | settle cell state held final =>
      exact ledger.same (schedulers_settle _ _ _) (entries_settle _ _ _)
    | conclude source target outcome running =>
      have answered : Ledger (m.noted (some (.answer target outcome)) ++ history) m :=
        fun scheduler => (ledger scheduler).record rfl fun _ => rfl
      exact answered.same (schedulers_settle _ _ _) (entries_settle _ _ _)
    | skip | sleep | stale | wait | drop | elapse => exact ledger.same rfl rfl
    | dropOwing => exact ledger.same (schedulers_settle _ _ _) (entries_settle _ _ _)
    | fireCallback id rest task scheduler timer duration callback table awake job due fired =>
      exact ledger.fire fired rfl rfl
    | fireDelay id rest task scheduler timer duration target value table awake job due fired =>
      exact ledger.fire fired (schedulers_settle _ _ _) (entries_settle _ _ _)
    | finishDelay => exact ledger.enter (schedulers_settle _ _ _) (entries_settle _ _ _) fun _ => rfl
    | startBody => exact ledger.enter rfl rfl fun _ => rfl
    | startCounted id rest task scheduler => exact (ledger.count scheduler).enter rfl rfl fun _ => rfl

theorem scheduler_start (memory : σ) (script : Script σ) (attached : Bool) (scheduler : SchedulerId) :
    (start memory script attached).toWorld.scheduler scheduler = {} := by
  cases scheduler <;> rfl

theorem Ledger.start (memory : σ) (script : Script σ) (attached : Bool) :
    Ledger [] (start memory script attached) := by
  intro scheduler
  rw [scheduler_start]
  exact .empty scheduler

end Machine
end RuleHost.Loop
