import RuleHost.Proofs.LoopLives

/-! The books of a scheduler hold through its whole life, and with them its statistics. A timer is
pending until its callback is entered or it is cleared, whichever comes first, and finished ever after. -/

namespace RuleHost.Loop

variable {σ : Type}

namespace Machine

/-- Whatever its programs do, and whether or not loops run, a scheduler's statistics add up: a timer that
was scheduled has fired, was cleared or is pending. What is pending was handed out, no number is handed
out twice, and as many timers have fired as timer callbacks were entered. -/
theorem timers_accounted {history : List (Record σ)} {m : Machine σ} (life : Life history m)
    (scheduler : SchedulerId) :
    let table := m.toWorld.scheduler scheduler
    table.stats.scheduled = table.stats.fired + table.stats.cancelled + table.pending.size ∧
    table.stats.fired + table.stats.cancelled ≤ table.stats.scheduled ∧
    table.stats.outstanding = table.pending.size ∧
    (∀ id ∈ table.pending.keys, table.ids.issued id = true ∧ id ∈ issued scheduler history) ∧
    (issued scheduler history).Pairwise (fun newer older => older.number < newer.number) ∧
    table.stats.fired = m.entries.countP (Entry.isTimer scheduler) := by
  have books := life.ledger scheduler
  have balance := books.balance
  refine ⟨balance, by omega, ?_, ?_, books.ascending, books.entered⟩
  · unfold TimerStats.outstanding
    omega
  · intro id pending
    have handed := books.handed pending
    exact ⟨books.known id handed, handed⟩

private def done : Program Unit := .finish (.ok .undefined)

/-- Timers that fire, one of them started by the callback of another, one that is cleared, and one that is
left when the script ends. -/
def mixedTimers : Script Unit :=
  let callback : Program Unit :=
    .perform (.clearTimeout 0 ⟨1⟩) fun _ => .setTimeout 0 5 done fun _ => done
  let body : Program Unit :=
    .setTimeout 0 10 callback fun _ => .setTimeout 0 20 done fun _ => .setTimeout 0 30 done fun _ =>
      .perform (.clearTimeout 0 ⟨2⟩) fun _ => .perform (.clearTimeout 0 ⟨9⟩) fun _ =>
        .perform (.delay (some 0) 12 .undefined) fun _ => done
  .run body fun outcome => .pause (fun _ => .sleep 16) fun _ => .finish outcome

def afterwards : Script Unit :=
  .run (.setTimeout 0 1 done fun _ => .perform (.clearTimeout 0 ⟨3⟩) fun _ => done) .finish

private def ended (m : Machine Unit) : Machine Unit := (runScript 60 m).getD m

private def left : Machine Unit :=
  { (ended (start () mixedTimers)).tearDown with script := .ready afterwards, attached := false }

theorem timers_accounted_left : ∃ (history : List (Record Unit)) (m : Machine Unit), Life history m ∧
    (m.toWorld.scheduler 0).stats = ⟨5, 3, 2, 0⟩ ∧ (m.toWorld.scheduler 0).pending.size = 0 ∧
    (m.toWorld.scheduler 0).stats.fired = m.entries.countP (Entry.isTimer 0) := by
  have first : runScript 60 (start () mixedTimers) = some (ended (start () mixedTimers)) := rfl
  obtain ⟨⟨earlier, run⟩, _⟩ := runScript_traced first
  have before := (((Life.start () mixedTimers true).traced run).leave rfl).enter rfl afterwards false
  have second : runScript 60 left = some (ended left) := rfl
  obtain ⟨⟨later, rest⟩, _⟩ := runScript_traced second
  have life := before.traced rest
  exact ⟨_, _, life, rfl, rfl, (timers_accounted life 0).2.2.2.2.2⟩

theorem state?_eq_pending_iff {table : TimerTable} {id : TimerId} :
    table.state? id = some .pending ↔ table.pending.contains id = true := by
  unfold TimerTable.state?
  split
  next held => simp [held]
  next missing => split <;> simp [missing]

theorem state?_eq_finished_iff {table : TimerTable} {id : TimerId}
    (handed : table.ids.issued id = true) :
    table.state? id = some .finished ↔ table.pending.contains id = false := by
  unfold TimerTable.state?
  split
  next held => simp [held]
  next missing => simp [missing]

theorem state?_clear {table next : TimerTable} {id kept : TimerId} {task : Nat}
    (taken : table.clear? id = some (task, next)) (differ : id ≠ kept) :
    next.state? kept = table.state? kept := by
  obtain ⟨_, _, same⟩ := Option.map_eq_some_iff.mp taken
  cases same
  simp [TimerTable.state?, Table.contains_erase, differ]

theorem clearTimer_iff {m : Machine σ} {scheduler : SchedulerId} {id : TimerId} :
    (m.clearTimer scheduler id).1 = true ↔
      (m.toWorld.scheduler scheduler).state? id = some .pending := by
  rw [state?_eq_pending_iff, Table.contains_eq_isSome]
  unfold clearTimer TimerTable.clear?
  cases (m.toWorld.scheduler scheduler).pending.find? id with
  | none => simp
  | some task =>
    simp only [Option.map_some]
    split <;> simp

theorem state?_clearTimer (m : Machine σ) (scheduler other : SchedulerId) (id kept : TimerId)
    (differ : scheduler ≠ other ∨ id ≠ kept) :
    ((m.clearTimer scheduler id).2.toWorld.scheduler other).state? kept =
      (m.toWorld.scheduler other).state? kept := by
  obtain ⟨middle, move, alike⟩ := clear_moves m scheduler id
  have tables : (m.clearTimer scheduler id).2.toWorld.scheduler other =
      middle.toWorld.scheduler other := by simp only [World.scheduler, alike.schedulers]
  have cleared {task : TaskId} {table : TimerTable}
      (held : (m.toWorld.scheduler scheduler).clear? id = some (task, table)) :
      ((m.setScheduler scheduler table).toWorld.scheduler other).state? kept =
        (m.toWorld.scheduler other).state? kept := by
    rw [scheduler_setScheduler m scheduler other table (known_of_clear held)]
    split
    next same =>
      subst same
      exact state?_clear held (differ.resolve_left fun apart => apart rfl)
    next => rfl
  rw [tables]
  generalize reply : (m.clearTimer scheduler id).1 = found at move
  cases move with
  | refuse => rfl
  | clear _ _ task table held live =>
    have same : ((m.setScheduler scheduler table).cancel task).toWorld.scheduler other =
        (m.setScheduler scheduler table).toWorld.scheduler other := by
      simp only [World.scheduler, schedulers_cancel]
    rw [same]
    exact cleared held
  | clearGone _ _ task table held gone => exact cleared held

theorem firings_mono {scheduler : SchedulerId} {id : TimerId} {older newer : List Entry}
    (suffix : older <:+ newer) : firings scheduler id older ≤ firings scheduler id newer :=
  suffix.sublist.countP_le

theorem clearings_mono {scheduler : SchedulerId} {id : TimerId} (later earlier : List (Record σ)) :
    clearings scheduler id earlier ≤ clearings scheduler id (later ++ earlier) :=
  (List.sublist_append_right later earlier).countP_le

theorem state?_schedule (table : TimerTable) (task : TaskId) :
    (table.schedule task).2.state? table.ids.issue.1 = some .pending := by
  simp [state?_eq_pending_iff, TimerTable.schedule, Table.contains_insert]

/-- A timer is pending as soon as its number is handed out. -/
theorem Move.issued_pending {m n : Machine σ} {call : Call σ} (move : Move m (some call) n)
    {scheduler : SchedulerId} {id : TimerId} (issues : call.issues? scheduler = some id) :
    (n.toWorld.scheduler scheduler).state? id = some .pending := by
  have enrolled {w n : Machine σ} {other : SchedulerId} (known : other < w.schedulers.size)
      (tables : n.schedulers = (w.setScheduler other
        ((w.toWorld.scheduler other).schedule w.tasks.size).2).schedulers)
      (taken : (if other = scheduler then some (w.toWorld.scheduler other).ids.issue.1 else none) =
        some id) : (n.toWorld.scheduler scheduler).state? id = some .pending := by
    split at taken
    next same =>
      subst same
      cases taken
      rw [scheduler_of_tables known tables, if_pos rfl]
      exact state?_schedule _ _
    next => cases taken
  cases move with
  | timeout other duration callback known => exact enrolled known rfl issues
  | countedDelay other duration value known =>
    exact enrolled (w := (m.newCell (.pending .task)).2) known rfl issues
  | delay | attach | refuse | clear | clearGone | conclude => cases issues

theorem Turn.issued_pending {m next : Machine σ} {new : List (Record σ)} (turn : Turn m new next)
    {record : Record σ} (member : record ∈ new) {scheduler : SchedulerId} {id : TimerId}
    (issues : record.call.issues? scheduler = some id) :
    (next.toWorld.scheduler scheduler).state? id = some .pending := by
  cases turn with
  | note | reorder | wake => cases member
  | step taken =>
    obtain ⟨call, made, same⟩ := Option.map_eq_some_iff.mp (Option.mem_toList.mp member)
    subst same
    obtain ⟨middle, move, alike⟩ := step_moves m next taken
    rw [made] at move
    have pending := move.issued_pending issues
    simpa only [World.scheduler, alike.schedulers] using pending

/-- A timer is pending when its number is handed out. From then on its callback is entered or it is cleared,
at most once; it is pending while neither has happened and finished for ever after; a call clears it exactly
while it is pending, and neither clears nor changes another one; and looking changes nothing. -/
theorem timer_fates {earlier later : List (Record σ)} {m n : Machine σ} (life : Life earlier m)
    (run : Traced m later n) (scheduler : SchedulerId) (id : TimerId) :
    (∀ new next record, Turn m new next → record ∈ new → record.call.issues? scheduler = some id →
      (next.toWorld.scheduler scheduler).state? id = some .pending) ∧
    (id ∈ issued scheduler earlier →
      firings scheduler id m.entries ≤ firings scheduler id n.entries ∧
      clearings scheduler id earlier ≤ clearings scheduler id (later ++ earlier) ∧
      firings scheduler id n.entries + clearings scheduler id (later ++ earlier) ≤ 1 ∧
      ((n.toWorld.scheduler scheduler).state? id = some .pending ↔
        firings scheduler id n.entries = 0 ∧ clearings scheduler id (later ++ earlier) = 0) ∧
      ((n.toWorld.scheduler scheduler).state? id = some .finished ↔
        firings scheduler id n.entries = 1 ∨ clearings scheduler id (later ++ earlier) = 1)) ∧
    ((n.clearTimer scheduler id).1 = true ↔
      (n.toWorld.scheduler scheduler).state? id = some .pending) ∧
    (∀ other kept, scheduler ≠ other ∨ id ≠ kept →
      ((n.clearTimer scheduler id).2.toWorld.scheduler other).state? kept =
        (n.toWorld.scheduler other).state? kept) ∧
    (n.perform .look).2 = n := by
  refine ⟨fun new next record turn member issues => turn.issued_pending member issues,
    fun handed => ?_, clearTimer_iff,
    fun other kept => state?_clearTimer n scheduler other id kept, rfl⟩
  have books := (life.traced run).ledger scheduler
  have member : id ∈ issued scheduler (later ++ earlier) := by
    unfold issued
    rw [List.filterMap_append]
    exact List.mem_append_right _ handed
  have once := books.fate member
  refine ⟨firings_mono run.persists.entries, clearings_mono later earlier, ?_, ?_, ?_⟩
  · omega
  · rw [state?_eq_pending_iff]
    by_cases held : (n.toWorld.scheduler scheduler).pending.contains id = true
    · rw [if_pos held] at once
      exact ⟨fun _ => by omega, fun _ => held⟩
    · rw [if_neg held] at once
      exact ⟨fun pending => absurd pending held, by omega⟩
  · rw [state?_eq_finished_iff (books.known id member)]
    cases held : (n.toWorld.scheduler scheduler).pending.contains id with
    | true =>
      simp only [held, ite_true] at once
      exact ⟨fun missing => (Bool.noConfusion missing), by omega⟩
    | false =>
      simp only [held, Bool.false_eq_true, ite_false] at once
      exact ⟨fun _ => by omega, fun _ => rfl⟩

/-- Three timers are due at once. The callback of the first clears the second, which is ready by then, and
itself, which is too late. -/
def rivals : Script Unit :=
  let callback : Program Unit :=
    .perform (.clearTimeout 0 ⟨2⟩) fun _ => .perform (.clearTimeout 0 ⟨1⟩) fun _ => done
  .run (.setTimeout 0 10 callback fun _ => .setTimeout 0 10 done fun _ => .setTimeout 0 10 done fun _ =>
    done) .finish

theorem timer_fates_rivals : ∃ (earlier later : List (Record Unit)) (m n : Machine Unit),
    Life earlier m ∧ Traced m later n ∧ ⟨2⟩ ∈ issued 0 earlier ∧
    (m.toWorld.scheduler 0).state? ⟨2⟩ = some .pending ∧
    (n.toWorld.scheduler 0).state? ⟨2⟩ = some .finished ∧ firings 0 ⟨2⟩ n.entries = 0 ∧
    clearings 0 ⟨2⟩ (later ++ earlier) = 1 := by
  have scripted : runScript 60 (start () rivals) = some (ended (start () rivals)) := rfl
  obtain ⟨⟨earlier, before⟩, _⟩ := runScript_traced scripted
  have settled : settleAll 60 (ended (start () rivals)) =
    some ((settleAll 60 (ended (start () rivals))).getD (start () rivals)) := rfl
  obtain ⟨⟨later, run⟩, _⟩ := settleAll_traced settled
  have life := (Life.start () rivals true).traced before
  have pending : (⟨2⟩ : TimerId) ∈ ((ended (start () rivals)).toWorld.scheduler 0).pending.keys := by
    decide
  have handed := (life.ledger 0).handed pending
  have finished := ((timer_fates life run 0 ⟨2⟩).2.1 handed).2.2.2.2.mp rfl
  have unfired : firings 0 ⟨2⟩ ((settleAll 60 (ended (start () rivals))).getD
    (start () rivals)).entries = 0 := rfl
  refine ⟨_, later, _, _, life, run, handed, rfl, rfl, unfired, ?_⟩
  omega

end Machine
end RuleHost.Loop
