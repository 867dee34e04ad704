import RuleHost.Proofs.ContinuationCausality
import RuleHost.Proofs.RunAgreement
import RuleHost.Proofs.TimerFates

/-! Loops that go away with work left in them. What tasks owed is lost, through whole trees of
continuations, and everything else stays as it was: the timers that were left wait in their tables until
someone clears them, and never fire. -/

namespace RuleHost.Loop.Machine

variable {σ : Type}

/-- Where a task comes from that is there after a move. -/
theorem Move.started {m n : Machine σ} {call : Option (Call σ)} (move : Move m call n) {id : TaskId}
    {later : Task σ} (found : n.tasks[id]? = some later) :
    (∃ old, m.tasks[id]? = some old) ∨ ∃ made, call = some made ∧ made.job? = some later.job := by
  have phased {w : Machine σ} {changed : TaskId} {phase : Phase}
      (stored : (w.setPhase changed phase).tasks[id]? = some later) (tasks : w.tasks = m.tasks) :
      ∃ old, m.tasks[id]? = some old := by
    rcases found_setPhase stored with ⟨_, old, before, _⟩ | ⟨_, before⟩
    · exact ⟨old, tasks ▸ before⟩
    · exact ⟨later, tasks ▸ before⟩
  have spawned {w : Machine σ} {job : Job σ} (stored : (w.spawn job).tasks[id]? = some later)
      (tasks : w.tasks = m.tasks) : (∃ old, m.tasks[id]? = some old) ∨ later.job = job := by
    rcases found_spawn stored with before | ⟨_, rfl⟩
    · exact .inl ⟨later, tasks ▸ before⟩
    · exact .inr rfl
  cases move with
  | quiet | function | scheduler | reserve | refuse | create | clearGone | skip | elapse =>
    exact .inl ⟨later, found⟩
  | settle | conclude =>
    rw [tasks_settle] at found
    exact .inl ⟨later, found⟩
  | timeout | delay | countedDelay | attach =>
    exact (spawned found rfl).imp_right fun job => ⟨_, rfl, congrArg some job.symm⟩
  | clear scheduler timer task table =>
    rw [tasks_cancel] at found
    exact .inl (phased found rfl)
  | sleep | wait | stale | drop | fireCallback | startBody | startCounted => exact .inl (phased found rfl)
  | fireDelay | finishDelay | dropOwing =>
    rw [tasks_settle] at found
    exact .inl (phased found rfl)

/-- A timer that fires in a move has the task that is having its turn. -/
theorem Move.fired {m n : Machine σ} {call : Option (Call σ)} (move : Move m call n)
    (scheduler : SchedulerId) (timer : TimerId) :
    firings scheduler timer n.entries = firings scheduler timer m.entries ∨
      ∃ (id : TaskId) (task : Task σ) (duration : Nat) (effect : TimerEffect σ),
        m.tasks[id]? = some task ∧ task.phase ≠ .ended ∧
          task.job = .timer scheduler timer duration effect := by
  have fires {id : TaskId} {rest : List TaskId} {task : Task σ} {other : SchedulerId} {fired : TimerId}
      {duration : Nat} {effect : TimerEffect σ} (awake : Awake m id rest task)
      (job : task.job = .timer other fired duration effect)
      (entries : n.entries = .timer other fired m.now :: m.entries) :
      firings scheduler timer n.entries = firings scheduler timer m.entries ∨
        ∃ (id : TaskId) (task : Task σ) (duration : Nat) (effect : TimerEffect σ),
          m.tasks[id]? = some task ∧ task.phase ≠ .ended ∧
            task.job = .timer scheduler timer duration effect := by
    by_cases same : other = scheduler ∧ fired = timer
    · obtain ⟨rfl, rfl⟩ := same
      exact .inr ⟨id, task, duration, effect, awake.found, awake.live, job⟩
    · rw [entries, firings, List.countP_cons, if_neg (by simpa [Entry.fires] using same)]
      exact .inl rfl
  cases move with
  | fireCallback id rest task other fired duration callback table awake job => exact fires awake job rfl
  | fireDelay id rest task other fired duration target value table awake job =>
    exact fires awake job (entries_settle _ _ _)
  | quiet | scheduler | reserve | timeout | delay | countedDelay | attach | refuse | clearGone | create
  | skip | sleep | stale | wait | drop | elapse | function | startBody | startCounted => exact .inl rfl
  | clear => rw [entries_cancel]; exact .inl rfl
  | settle | conclude | dropOwing | finishDelay => rw [entries_settle]; exact .inl rfl

/-- A timer whose tasks are all over, and the number of times that it has fired. -/
structure Dormant (scheduler : SchedulerId) (timer : TimerId) (count : Nat) (history : List (Record σ))
    (m : Machine σ) : Prop where
  handed : timer ∈ issued scheduler history
  tasks : ∀ (id : TaskId) (task : Task σ) (duration : Nat) (effect : TimerEffect σ),
    m.tasks[id]? = some task → task.job = .timer scheduler timer duration effect → task.phase = .ended
  fired : firings scheduler timer m.entries = count

/-- No task is started for a timer number that was handed out before. -/
theorem Dormant.lasting (scheduler : SchedulerId) (timer : TimerId) (count : Nat) :
    Lasting (σ := σ) Ledger (Dormant scheduler timer count) where
  alike alike dormant :=
    ⟨dormant.handed, alike.tasks ▸ dormant.tasks, alike.entries ▸ dormant.fired⟩
  move := by
    intro history m n call ledger move dormant
    have onward : Ledger (m.noted call ++ history) n := Ledger.invariant.move trivial move ledger
    refine ⟨?_, fun id later duration effect found job => ?_, ?_⟩
    · rw [issued, List.filterMap_append]
      exact List.mem_append_right _ dormant.handed
    · rcases move.started found with ⟨old, stored⟩ | ⟨made, rfl, starts⟩
      · obtain ⟨same, again, _, work, finished⟩ := move.persists.tasks id old stored
        cases found.symm.trans again
        exact finished (dormant.tasks id old duration effect stored (work.symm.trans job))
      · have issues := Call.issues?_of_job (starts.trans (congrArg some job))
        have ascending := (onward scheduler).ascending
        have twice : issued scheduler (m.noted (some made) ++ history) = timer :: issued scheduler history :=
          List.filterMap_cons_some issues
        rw [twice, List.pairwise_cons] at ascending
        exact absurd (ascending.1 timer dormant.handed) (Nat.lt_irrefl _)
    · rcases move.fired scheduler timer with same | ⟨id, task, duration, effect, found, live, job⟩
      · exact same.trans dormant.fired
      · exact absurd (dormant.tasks id task duration effect found job) live
  leave := by
    intro history m _ _ dormant
    refine ⟨dormant.handed, fun id task duration effect found job => ?_, ?_⟩
    · obtain ⟨_, _, rfl⟩ := found_tearDown found
      rfl
    · rw [entries_tearDown]
      exact dormant.fired

/-- What a loop leaves behind that is taken away, at once and for all time to come. -/
structure Abandonment (history : List (Record σ)) (m : Machine σ) : Prop where
  frozen : m.tearDown.schedulers = m.schedulers ∧ m.tearDown.memory = m.memory ∧
    m.tearDown.entries = m.entries ∧ m.tearDown.notices = m.notices ∧ m.tearDown.now = m.now
  handles : ∀ record ∈ history, ∀ handle, record.call.handle? = some handle →
    ∀ later n, Onward m.tearDown later n →
      (∀ value time, n.toWorld.state? handle = some (.resolved value time) ↔
        m.toWorld.state? handle = some (.resolved value time)) ∧
      ((∃ value time, n.toWorld.state? handle = some (.resolved value time)) ∨
        n.toWorld.state? handle = some .abandoned)
  trees : ∀ root handle, Hangs history root handle → handle ≠ root →
    (∀ value time, m.toWorld.state? root ≠ some (.resolved value time)) →
      ∀ later n, Onward m.tearDown later n → n.toWorld.state? handle = some .abandoned
  timers : ∀ scheduler, ∀ id ∈ issued scheduler history, firings scheduler id m.entries = 0 →
    clearings scheduler id history = 0 →
      (m.tearDown.toWorld.scheduler scheduler).state? id = some .pending ∧
      id ∈ (m.tearDown.toWorld.scheduler scheduler).pending.keys ∧
      ∀ later n, Onward m.tearDown later n → firings scheduler id n.entries = 0 ∧
        clearings scheduler id later ≤ 1 ∧
          ((n.clearTimer scheduler id).1 = true ↔ clearings scheduler id later = 0)
  counted : ∀ scheduler, (m.tearDown.toWorld.scheduler scheduler).pending.size =
    (issued scheduler history).countP fun id =>
      firings scheduler id m.entries = 0 ∧ clearings scheduler id history = 0

section Left

variable {history : List (Record σ)} {m : Machine σ}

theorem Life.resolved_root (life : Life history m) {root handle : CellId}
    (hangs : Hangs history root handle) {value : Value} {time : Nat}
    (stored : m.toWorld.state? handle = some (.resolved value time)) :
    ∃ argument moment, m.toWorld.state? root = some (.resolved argument moment) := by
  induction hangs generalizing value time with
  | root => exact ⟨value, time, stored⟩
  | attached _ made ih =>
    obtain ⟨_, _, resolved⟩ := life.source_resolved made (.inr ⟨value, time, stored⟩)
    exact ih resolved

/-- A handle that a call was given is settled once the loop is gone. -/
theorem Life.settled_tearDown (life : Life history m) (idle : m.focus = .idle) {record : Record σ}
    (member : record ∈ history) {handle : CellId} (given : record.call.handle? = some handle) :
    Settled m.tearDown handle := by
  obtain ⟨job, starts, owes⟩ := Call.job_of_handle given
  obtain ⟨id, task, found, _, rfl⟩ := life.filed.task member starts
  have ended : m.tearDown.tasks[id]? = some task.dropped := by
    rw [tasks_tearDown, found]
    rfl
  have still : m.tearDown.focus = .idle := (focus_tearDown m).trans idle
  exact ((life.leave idle).discharged id task.dropped handle ended rfl owes).resolve_right
    (not_owed still handle)

theorem Life.left_handle (life : Life history m) (idle : m.focus = .idle) {record : Record σ}
    (member : record ∈ history) {handle : CellId} (given : record.call.handle? = some handle)
    {later : List (Record σ)} {n : Machine σ} (onward : Onward m.tearDown later n) :
    (∀ value time, n.toWorld.state? handle = some (.resolved value time) ↔
      m.toWorld.state? handle = some (.resolved value time)) ∧
    ((∃ value time, n.toWorld.state? handle = some (.resolved value time)) ∨
      n.toWorld.state? handle = some .abandoned) := by
  obtain ⟨state, stored, final⟩ := life.settled_tearDown idle member given
  have kept := ((life.leave idle).persists onward).settled handle state stored final
  refine ⟨fun value time => ⟨fun resolved => ?_, fun resolved => ?_⟩, ?_⟩
  · have before := stored.trans (kept.symm.trans resolved)
    rcases state?_tearDown life.owing idle handle with ⟨_, lost⟩ | same
    · cases lost.symm.trans before
    · exact same.symm.trans before
  · have whole := (persists_tearDown life.owing idle).trans ((life.leave idle).persists onward)
    exact whole.resolved resolved
  · cases state with
    | pending writer => exact absurd rfl (final writer)
    | resolved value time => exact .inl ⟨value, time, kept⟩
    | abandoned => exact .inr kept

theorem Life.left_timer (life : Life history m) (idle : m.focus = .idle) {scheduler : SchedulerId}
    {id : TimerId} (handed : id ∈ issued scheduler history)
    (unfired : firings scheduler id m.entries = 0) (uncleared : clearings scheduler id history = 0)
    {later : List (Record σ)} {n : Machine σ} (onward : Onward m.tearDown later n) :
    firings scheduler id n.entries = 0 ∧ clearings scheduler id later ≤ 1 ∧
      ((n.clearTimer scheduler id).1 = true ↔ clearings scheduler id later = 0) := by
  have gone := life.leave idle
  have dormant : Dormant scheduler id 0 history m.tearDown := by
    refine ⟨handed, fun _ task _ _ found _ => ?_, by rw [entries_tearDown]; exact unfired⟩
    obtain ⟨_, _, rfl⟩ := found_tearDown found
    rfl
  have last := (Dormant.lasting scheduler id 0).onward gone Life.ledger dormant onward
  have fate := ((gone.onward onward).ledger scheduler).fate last.handed
  have cleared : clearings scheduler id (later ++ history) = clearings scheduler id later := by
    rw [clearings, List.countP_append]
    exact Nat.add_eq_left.mpr uncleared
  rw [last.fired, cleared] at fate
  refine ⟨last.fired, by omega, ?_⟩
  rw [clearTimer_iff, state?_eq_pending_iff]
  split at fate
  next held => exact ⟨fun _ => by omega, fun _ => held⟩
  next absent => exact ⟨fun held => absurd held absent, by omega⟩

theorem Life.abandonment (life : Life history m) (idle : m.focus = .idle) : Abandonment history m := by
  obtain ⟨_, _, same⟩ := tearDown_frame m
  refine ⟨by rw [same]; exact ⟨rfl, rfl, rfl, rfl, rfl⟩, ?_, ?_, ?_, ?_⟩
  · exact fun record member handle given later n onward => life.left_handle idle member given onward
  · intro root handle hangs differ unresolved later n onward
    cases hangs with
    | root => exact absurd rfl differ
    | attached before made =>
      obtain ⟨exact, left⟩ := life.left_handle idle made rfl onward
      refine left.resolve_left ?_
      rintro ⟨value, time, resolved⟩
      obtain ⟨argument, moment, stored⟩ :=
        life.resolved_root (.attached before made) ((exact value time).mp resolved)
      exact unresolved argument moment stored
  · intro scheduler id handed unfired uncleared
    have pending := (life.ledger scheduler).mem_pending_iff.mpr ⟨handed, unfired, uncleared⟩
    rw [scheduler_tearDown]
    refine ⟨?_, pending, fun later n => life.left_timer idle handed unfired uncleared⟩
    rw [state?_eq_pending_iff]
    exact Table.contains_eq_true_iff.mpr pending
  · intro scheduler
    rw [scheduler_tearDown]
    exact (life.ledger scheduler).pending_size

/-- Wherever a loop stops, whether its script has failed or has ended with work left behind: what tasks
owed is lost, through all the trees that hang on it, and nothing else changes. A timer that was left never
fires, and can still be cleared once. -/
theorem loops_abandon (life : Life history m) :
    (m.focus = .idle → Abandonment history m) ∧
    ∀ script, m.script = .ready script → ∀ fuel final,
      (runAndLeave fuel m = some final ∨
        tryRun fuel m = some final ∧ ∃ failure, final.outcome? = some (.error failure)) →
      ∃ later last, Traced m later last ∧ last.focus = .idle ∧ final = last.tearDown ∧
        Abandonment (later ++ history) last := by
  refine ⟨life.abandonment, fun script ready fuel final ways => ?_⟩
  have leaves {last : Machine σ} (body : runScript fuel m = some last) (left : final = last.tearDown) :
      ∃ later last, Traced m later last ∧ last.focus = .idle ∧ final = last.tearDown ∧
        Abandonment (later ++ history) last := by
    have idle := runScript_idle (outcome?_ready ready) body
    obtain ⟨⟨later, run⟩, _⟩ := runScript_traced body
    exact ⟨later, last, run, idle, left, (life.traced run).abandonment idle⟩
  rcases ways with left | ⟨returned, failure, failed⟩
  · obtain ⟨last, body, same⟩ := Option.map_eq_some_iff.mp left
    exact leaves body same.symm
  · obtain ⟨last, body, rest⟩ := Option.bind_eq_some_iff.mp returned
    have idle := runScript_idle (outcome?_ready ready) body
    split at rest
    next value succeeded =>
      cases (drain_outcome idle succeeded rest).symm.trans failed
    next => exact leaves body (Option.some.inj rest).symm

end Left

/-- A script that fails when the sooner of two delays is over, and leaves a timer and a chain of two
continuations on the later one. -/
def forsaken : Script Unit :=
  let pass (value : Value) : Program Unit := .finish (.ok value)
  .run (.perform (.delay (some 0) 10 .null) fun _ => .perform (.delay (some 0) 40 .undefined) fun _ =>
    .attach none 1 pass fun _ => .attach (some 0) 2 pass fun _ =>
      .setTimeout 0 30 (.finish (.ok .undefined)) fun _ => .finish (.ok .undefined)) fun _ =>
    .pause (fun _ => .sleep 15) fun _ => .finish (.error .detached)

private def forsook : Machine Unit := (tryRun 60 (start () forsaken)).getD (start () forsaken)

theorem loops_abandon_forsaken : Life [] (start () forsaken) ∧
    ∃ final, tryRun 60 (start () forsaken) = some final ∧
      final.toWorld.state? 0 = some (.resolved .null 10) ∧
      final.toWorld.state? 3 = some .abandoned ∧
      (final.toWorld.scheduler 0).stats = ⟨3, 1, 0, 0⟩ ∧
      (final.toWorld.scheduler 0).pending.keys = [⟨2⟩, ⟨3⟩] ∧
      ∃ later last, Traced (start () forsaken) later last ∧ last.focus = .idle ∧
        final = last.tearDown ∧ Abandonment (later ++ []) last := by
  have returned : tryRun 60 (start () forsaken) = some forsook := rfl
  have failed : forsook.outcome? = some (.error .detached) := rfl
  have life : Life [] (start () forsaken) := .start () forsaken true
  have left := (loops_abandon life).2 forsaken rfl 60 forsook (.inr ⟨returned, .detached, failed⟩)
  exact ⟨life, forsook, returned, rfl, rfl, rfl, rfl, left⟩

end RuleHost.Loop.Machine
