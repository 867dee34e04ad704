import RuleHost.Proofs.TaskFates

/-! Deadlines. A timer or a delay is due as long after its call as it was to last, and a continuation when
it is attached or when its source is resolved, whichever is later. So what is due first is over, with all
that hangs on it, before anything that is due later. -/

namespace RuleHost.Loop

variable {σ : Type}

def Call.duration? : Call σ → Option Nat
  | .timeout _ duration _ _ => some duration
  | .delay duration _ _ => some duration
  | .countedDelay _ duration _ _ _ => some duration
  | _ => none

def Call.handle? : Call σ → Option CellId
  | .delay _ _ handle => some handle
  | .countedDelay _ _ _ _ handle => some handle
  | .attach _ _ _ handle => some handle
  | _ => none

def Call.Enters : Call σ → Entry → Prop
  | .timeout scheduler _ _ id, .timer other fired _ => scheduler = other ∧ id = fired
  | .countedDelay scheduler _ _ id _, .timer other fired _ => scheduler = other ∧ id = fired
  | .delay _ _ handle, .delay target _ => handle = target
  | .attach _ source _ handle, .continuation awaited target _ _ => source = awaited ∧ handle = target
  | _, _ => False

def Record.deadline? (record : Record σ) : Option Nat :=
  record.call.duration?.map fun duration => record.time + duration

/-- When the callback of a call is due, if that is known yet. -/
def Record.due? (record : Record σ) (w : World) : Option Nat :=
  match record.call with
  | .attach _ source _ _ =>
    match w.state? source with
    | some (.resolved _ time) => some (max record.time time)
    | _ => none
  | _ => record.deadline?

def before (limit : Nat) (history : List (Record σ)) : List (Record σ) :=
  history.filter fun record => record.time < limit

/-- The deferred values that hang on one: itself, those of the continuations attached to it, and so on. -/
inductive Hangs (history : List (Record σ)) (root : CellId) : CellId → Prop where
  | root : Hangs history root root
  | attached {time : Nat} {counter : Option SchedulerId} {source handle : CellId}
      {body : Value → Program σ} (hangs : Hangs history root source)
      (made : ⟨time, .attach counter source body handle⟩ ∈ history) : Hangs history root handle

theorem Call.job_of_handle {call : Call σ} {handle : CellId} (given : call.handle? = some handle) :
    ∃ job, call.job? = some job ∧ job.target? = some handle := by
  cases call <;> cases given <;> exact ⟨_, rfl, rfl⟩

theorem Record.due?_of_deadline {record : Record σ} {due : Nat} (deadline : record.deadline? = some due)
    (w : World) : record.due? w = some due := by
  obtain ⟨time, call⟩ := record
  cases call with
  | attach => cases deadline
  | timeout | delay | countedDelay | clear | answer => exact deadline

theorem Record.due?_of_attach {time due : Nat} {counter : Option SchedulerId} {source handle : CellId}
    {body : Value → Program σ} {w : World}
    (exact : Record.due? ⟨time, .attach counter source body handle⟩ w = some due) :
    ∃ value settled, w.state? source = some (.resolved value settled) ∧ max time settled = due := by
  simp only [Record.due?] at exact
  split at exact
  next value settled resolved => exact ⟨value, settled, resolved, Option.some.inj exact⟩
  next => cases exact

namespace Machine

/-- The callback of a call, or of a continuation that hangs on a value which was resolved when the call
was due: its own value, or one that its callback resolved. -/
inductive Belongs (history : List (Record σ)) (m : Machine σ) (record : Record σ) (due : Nat) :
    Entry → Prop where
  | callback {entry : Entry} (enters : record.call.Enters entry) : Belongs history m record due entry
  | continuation {entry : Entry} {root source handle : CellId} {value : Value} {time : Nat}
      {counter : Option SchedulerId} {body : Value → Program σ}
      (resolved : m.toWorld.state? root = some (.resolved value due))
      (hangs : Hangs history root source)
      (made : ⟨time, .attach counter source body handle⟩ ∈ history)
      (enters : (Call.attach counter source body handle).Enters entry) :
      Belongs history m record due entry

section Exact

variable {history : List (Record σ)} {m : Machine σ}

theorem Standing.timer_due (standing : Standing history m) (orderly : Orderly history m)
    (filed : Filed history m) {record : Record σ} (member : record ∈ history) {scheduler : SchedulerId}
    {id : TimerId} {duration time : Nat} {effect : TimerEffect σ}
    (starts : record.call.job? = some (.timer scheduler id duration effect))
    (present : .timer scheduler id time ∈ m.entries) : record.time + duration = time := by
  obtain ⟨first, task, found, born, job⟩ := filed.task member starts
  obtain ⟨second, other, span, action, stored, work, exact⟩ := standing.entered _ present
  obtain ⟨same, jobs⟩ := filed.timer_unique orderly.ledger found stored job work
  cases job.symm.trans (jobs.trans work)
  omega

theorem Standing.delay_due (standing : Standing history m) (orderly : Orderly history m)
    (filed : Filed history m) {record : Record σ} (member : record ∈ history) {duration time : Nat}
    {target : CellId} {value : Value} (starts : record.call.job? = some (.delay duration target value))
    (present : .delay target time ∈ m.entries) : record.time + duration = time := by
  obtain ⟨first, task, found, born, job⟩ := filed.task member starts
  obtain ⟨second, other, span, later, stored, work, exact⟩ := standing.entered _ present
  obtain rfl := orderly.owing.unique found stored (by rw [job, Job.target?]) (by rw [work, Job.target?])
  cases job.symm.trans work
  omega

theorem Standing.continuation_due (standing : Standing history m) (orderly : Orderly history m)
    (filed : Filed history m) {record : Record σ} (member : record ∈ history)
    {counter : Option SchedulerId} {source awaited target : CellId} {body : Value → Program σ}
    {value : Value} {time : Nat}
    (starts : record.call.job? = some (.continuation counter source target body))
    (present : .continuation awaited target value time ∈ m.entries) : ∃ settled,
      m.toWorld.state? source = some (.resolved value settled) ∧ max record.time settled = time := by
  obtain ⟨first, task, found, born, job⟩ := filed.task member starts
  obtain ⟨second, other, also, next, settled, stored, work, resolved, exact⟩ := standing.entered _ present
  obtain rfl := orderly.owing.unique found stored (by rw [job, Job.target?]) (by rw [work, Job.target?])
  cases job.symm.trans work
  exact ⟨settled, resolved, by omega⟩

/-- A callback is entered exactly when it is due. -/
theorem Standing.entered_due (standing : Standing history m) (orderly : Orderly history m)
    (filed : Filed history m) {record : Record σ} (member : record ∈ history) {entry : Entry}
    (present : entry ∈ m.entries) (enters : record.call.Enters entry) :
    record.due? m.toWorld = some entry.time := by
  obtain ⟨time, call⟩ := record
  cases call with
  | timeout scheduler duration callback id =>
    cases entry with
    | timer other fired entered =>
      obtain ⟨rfl, rfl⟩ := enters
      exact congrArg some (standing.timer_due orderly filed member rfl present)
    | delay | continuation | function => cases enters
  | delay duration value handle =>
    cases entry with
    | delay target entered =>
      obtain rfl := enters
      exact congrArg some (standing.delay_due orderly filed member rfl present)
    | timer | continuation | function => cases enters
  | countedDelay scheduler duration value id handle =>
    cases entry with
    | timer other fired entered =>
      obtain ⟨rfl, rfl⟩ := enters
      exact congrArg some (standing.timer_due orderly filed member rfl present)
    | delay | continuation | function => cases enters
  | attach counter source body handle =>
    cases entry with
    | continuation awaited target value entered =>
      obtain ⟨rfl, rfl⟩ := enters
      obtain ⟨settled, resolved, exact⟩ :=
        standing.continuation_due orderly filed member rfl present
      simp only [Record.due?, resolved, Entry.time, exact]
    | timer | delay | function => cases enters
  | clear | answer => cases entry <;> cases enters

theorem Standing.ended_of_resolved (standing : Standing history m) (owing : Owing m) {id : TaskId}
    {task : Task σ} {target : CellId} (found : m.tasks[id]? = some task)
    (owes : task.job.target? = some target) {value : Value} {time : Nat}
    (resolved : m.toWorld.state? target = some (.resolved value time)) :
    Concluded history m task.born task.job := by
  have ended : task.phase = .ended := by
    apply Decidable.byContradiction
    intro live
    cases resolved.symm.trans (owing.live id task target found live owes)
  rcases (standing.tasks id task found).ended ended with concluded | underway
  · exact concluded
  · generalize task.job = job at owes underway
    cases underway with
    | running awaited entered owed now =>
      cases owes
      cases resolved.symm.trans (owing.debt target owed).1

/-- What a call was given is resolved exactly when its callback is due. -/
theorem Standing.resolved_due (standing : Standing history m) (orderly : Orderly history m)
    (filed : Filed history m) {record : Record σ} (member : record ∈ history) {handle : CellId}
    (given : record.call.handle? = some handle) {value : Value} {time : Nat}
    (resolved : m.toWorld.state? handle = some (.resolved value time)) :
    record.due? m.toWorld = some time := by
  obtain ⟨job, starts, owes⟩ := Call.job_of_handle given
  obtain ⟨id, task, found, born, same⟩ := filed.task member starts
  have concluded := standing.ended_of_resolved orderly.owing found (same ▸ owes) resolved
  rw [born, same] at concluded
  obtain ⟨made, call⟩ := record
  cases call with
  | timeout | clear | answer => cases given
  | delay duration content target =>
    cases given
    cases starts
    cases concluded with
    | delayed entered left =>
      cases resolved.symm.trans left
      rfl
  | countedDelay scheduler duration content timer target =>
    cases given
    cases starts
    cases concluded with
    | resolved entered left =>
      cases resolved.symm.trans left
      rfl
    | cleared taken left => cases resolved.symm.trans (left handle content rfl)
  | attach counter source body target =>
    cases given
    cases starts
    cases concluded with
    | @continued _ _ _ _ _ _ outcome awaited entered answered left =>
      have same := left.symm.trans resolved
      cases outcome with
      | ok result =>
        cases same
        simp only [Record.due?, awaited]
      | error failure => cases same
    | lost awaited left => cases resolved.symm.trans left

/-- A continuation has had its turn once its time is over. -/
theorem Standing.continuation_entered (standing : Standing history m) (orderly : Orderly history m)
    (filed : Filed history m) {time settled : Nat} {counter : Option SchedulerId}
    {source handle : CellId} {body : Value → Program σ} {value : Value}
    (member : ⟨time, .attach counter source body handle⟩ ∈ history)
    (resolved : m.toWorld.state? source = some (.resolved value settled))
    (past : max time settled < m.now) :
    .continuation source handle value (max time settled) ∈ m.entries := by
  obtain ⟨id, task, found, born, job⟩ := filed.task member rfl
  have timely := orderly.punctual.tasks id task found
  simp only at born
  cases phase : task.phase with
  | fresh =>
    have today := (timely.fresh phase).1
    omega
  | sleeping deadline =>
    obtain ⟨_, _, duration, slept, _⟩ := timely.sleeping deadline phase
    rw [job] at slept
    cases slept
  | waiting =>
    obtain ⟨_, awaited, _, _, work, outcome⟩ := timely.waiting phase
    cases job.symm.trans work
    rcases outcome with ⟨writer, pending⟩ | ⟨_, state, stored, final⟩
    · cases resolved.symm.trans pending
    · obtain rfl := Option.some.inj (resolved.symm.trans stored)
      rcases final with lost | ⟨_, same⟩
      · cases lost
      · cases same
        omega
  | cancelled =>
    obtain ⟨_, _, _, _, work, _⟩ := (standing.tasks id task found).cancelled phase
    cases job.symm.trans work
  | ended =>
    have left := (standing.tasks id task found).ended phase
    rw [born, job] at left
    rcases left with concluded | underway
    · cases concluded with
      | continued awaited entered _ _ =>
        cases resolved.symm.trans awaited
        exact entered
      | lost awaited _ => cases resolved.symm.trans awaited
    · cases underway with
      | running awaited entered _ _ =>
        cases resolved.symm.trans awaited
        exact entered

end Exact

section Trees

variable {history : List (Record σ)} {m : Machine σ}

theorem mem_before {limit : Nat} {record : Record σ} :
    record ∈ before limit history ↔ record ∈ history ∧ record.time < limit := by
  simp [before]

theorem Standing.hangs_after (standing : Standing history m) (orderly : Orderly history m)
    (filed : Filed history m) {root cell : CellId} {value : Value} {due : Nat}
    (resolved : m.toWorld.state? root = some (.resolved value due)) (hangs : Hangs history root cell) :
    ∀ result settled, m.toWorld.state? cell = some (.resolved result settled) → due ≤ settled := by
  induction hangs with
  | root =>
    intro result settled again
    cases resolved.symm.trans again
    exact Nat.le_refl due
  | attached hangs made ih =>
    intro result settled stored
    obtain ⟨value, time, awaited, exact⟩ :=
      Record.due?_of_attach (standing.resolved_due orderly filed made rfl stored)
    have earlier := ih value time awaited
    omega

/-- What hangs on a value, and hung on it before a time, is resolved before that time if the value is. -/
theorem Standing.hangs_before (standing : Standing history m) (orderly : Orderly history m)
    (filed : Filed history m) {root cell : CellId} {value : Value} {due limit : Nat}
    (resolved : m.toWorld.state? root = some (.resolved value due)) (early : due < limit)
    (hangs : Hangs (before limit history) root cell) :
    ∀ result settled, m.toWorld.state? cell = some (.resolved result settled) → settled < limit := by
  induction hangs with
  | root =>
    intro result settled again
    cases resolved.symm.trans again
    exact early
  | attached hangs made ih =>
    intro result settled stored
    obtain ⟨member, past⟩ := mem_before.mp made
    obtain ⟨value, time, awaited, exact⟩ :=
      Record.due?_of_attach (standing.resolved_due orderly filed member rfl stored)
    have earlier := ih value time awaited
    exact exact ▸ Nat.max_lt.mpr ⟨past, earlier⟩

theorem Punctual.mem_older (punctual : Punctual m) {newer older : List Entry} {entry earlier : Entry}
    (entries : m.entries = newer ++ entry :: older) (member : earlier ∈ m.entries)
    (less : earlier.time < entry.time) : earlier ∈ older := by
  have ordered := punctual.ordered
  rw [entries] at ordered member
  obtain ⟨_, _, across⟩ := List.pairwise_append.mp ordered
  rcases List.mem_append.mp member with young | old
  · have later := across earlier young entry List.mem_cons_self
    omega
  · rcases List.mem_cons.mp old with rfl | oldest
    · exact absurd less (Nat.lt_irrefl _)
    · exact oldest

theorem Standing.belongs_after (standing : Standing history m) (orderly : Orderly history m)
    (filed : Filed history m) {record : Record σ} (member : record ∈ history) {due : Nat}
    (deadline : record.deadline? = some due) {entry : Entry} (present : entry ∈ m.entries)
    (belongs : Belongs history m record due entry) : due ≤ entry.time := by
  cases belongs with
  | callback enters =>
    have exact := standing.entered_due orderly filed member present enters
    rw [Record.due?_of_deadline deadline] at exact
    exact Nat.le_of_eq (Option.some.inj exact)
  | continuation resolved hangs made enters =>
    obtain ⟨value, time, awaited, exact⟩ :=
      Record.due?_of_attach (standing.entered_due orderly filed made present enters)
    have later := standing.hangs_after orderly filed resolved hangs value time awaited
    omega

/-- What belongs to a call that is due earlier, and hung on it in time, is entered earlier. -/
theorem Standing.belongs_before (standing : Standing history m) (orderly : Orderly history m)
    (filed : Filed history m) {record : Record σ} (member : record ∈ history) {due limit : Nat}
    (deadline : record.deadline? = some due) (early : due < limit) {entry : Entry}
    (present : entry ∈ m.entries) (belongs : Belongs (before limit history) m record due entry) :
    entry.time < limit := by
  cases belongs with
  | callback enters =>
    have exact := standing.entered_due orderly filed member present enters
    rw [Record.due?_of_deadline deadline] at exact
    exact Option.some.inj exact ▸ early
  | continuation resolved hangs made enters =>
    obtain ⟨listed, past⟩ := mem_before.mp made
    obtain ⟨value, time, awaited, exact⟩ :=
      Record.due?_of_attach (standing.entered_due orderly filed listed present enters)
    have sooner := standing.hangs_before orderly filed resolved early hangs value time awaited
    exact exact ▸ Nat.max_lt.mpr ⟨past, sooner⟩

end Trees

/-- Whatever a script and its callbacks start, and in whatever order ready tasks have their turns: every
callback is entered, and every value resolved, exactly when it is due. Of two timers or delays the one that
is due earlier has entered its callback, and all continuations that hang on it have been entered as far as
their sources were resolved, before the callback of the later one or a continuation that hangs on it is. -/
theorem deadlines_exact {memory : σ} {script : Script σ} {attached : Bool}
    {history : List (Record σ)} {m : Machine σ}
    (run : Traced (start memory script attached) history m) :
    (∀ record ∈ history, ∀ entry ∈ m.entries, record.call.Enters entry →
      record.due? m.toWorld = some entry.time) ∧
    (∀ record ∈ history, ∀ handle, record.call.handle? = some handle → ∀ value time,
      m.toWorld.state? handle = some (.resolved value time) → record.due? m.toWorld = some time) ∧
    ∀ first ∈ history, ∀ second ∈ history, ∀ early late, first.deadline? = some early →
      second.deadline? = some late → early < late →
      ∀ newer entry older, m.entries = newer ++ entry :: older → Belongs history m second late entry →
        (∀ sooner ∈ m.entries, Belongs (before late history) m first early sooner →
          sooner ∈ older) ∧
        ∀ root value, m.toWorld.state? root = some (.resolved value early) →
          ∀ time counter source body handle,
            ⟨time, .attach counter source body handle⟩ ∈ before late history →
            Hangs (before late history) root source →
            ∀ result settled, m.toWorld.state? source = some (.resolved result settled) →
              .continuation source handle result (max time settled) ∈ older := by
  have standing := run.standing
  have orderly := run.orderly
  have filed := run.filed
  refine ⟨?_, ?_, ?_⟩
  · exact fun record member entry present => standing.entered_due orderly filed member present
  · exact fun record member handle given value time => standing.resolved_due orderly filed member given
  · intro first member second listed early late deadline limit less newer entry older entries belongs
    have present : entry ∈ m.entries := by
      rw [entries]
      exact List.mem_append_right newer List.mem_cons_self
    have reached := standing.belongs_after orderly filed listed limit present belongs
    refine ⟨?_, ?_⟩
    · intro sooner entered tree
      have past := standing.belongs_before orderly filed member deadline less entered tree
      exact orderly.punctual.mem_older entries entered (Nat.lt_of_lt_of_le past reached)
    · intro root value resolved time counter source body handle made hangs result settled stored
      obtain ⟨recorded, attachedBefore⟩ := mem_before.mp made
      have sooner := standing.hangs_before orderly filed resolved less hangs result settled stored
      have past : max time settled < late := Nat.max_lt.mpr ⟨attachedBefore, sooner⟩
      have now := orderly.punctual.past entry present
      have entered := standing.continuation_entered orderly filed recorded stored (by omega)
      exact orderly.punctual.mem_older entries entered (Nat.lt_of_lt_of_le past reached)

/-- The delay that is asked for first ends last, and two continuations hang on the other one. -/
def crossed : Script Unit :=
  let pass (value : Value) : Program Unit := .finish (.ok value)
  .run (.perform (.delay none 20 .null) fun _ => .perform (.delay (some 0) 10 .undefined) fun soon =>
    .attach none (soon.getD 0) pass fun handle => .attach (some 0) (handle.getD 0) pass fun _ =>
      .finish (.ok .undefined)) .finish

theorem deadlines_exact_crossed : ∃ (history : List (Record Unit)) (m : Machine Unit),
    Traced (start () crossed) history m ∧
    m.entries = [.delay 0 20, .continuation 2 3 .undefined 10, .continuation 1 2 .undefined 10,
      .timer 0 ⟨1⟩ 10] ∧
    ∀ record ∈ history, ∀ entry ∈ m.entries, record.call.Enters entry →
      record.due? m.toWorld = some entry.time := by
  have settled : settleAll 60 (start () crossed) =
    some ((settleAll 60 (start () crossed)).getD (start () crossed)) := rfl
  obtain ⟨⟨history, run⟩, _⟩ := settleAll_traced settled
  exact ⟨history, _, run, rfl, (deadlines_exact run).1⟩

end Machine
end RuleHost.Loop
