import RuleHost.Proofs.LoopMoves

/-! Every turn of a loop is one of the moves. The machine is followed through its definitions here; the invariants of
tasks, timers and continuations are stated and proved over moves. -/

namespace RuleHost.Loop.Machine

variable {σ : Type}

def Moves (m : Machine σ) (call : Option (Call σ)) (next : Machine σ) : Prop :=
  ∃ middle, Move m call middle ∧ Alike middle next

theorem Moves.then {m middle next : Machine σ} {call : Option (Call σ)} (moves : Moves m call middle)
    (alike : Alike middle next) : Moves m call next := by
  obtain ⟨between, move, same⟩ := moves
  exact ⟨between, move, same.trans alike⟩

theorem Move.moves {m next : Machine σ} {call : Option (Call σ)} (move : Move m call next) :
    Moves m call next := ⟨next, move, .refl next⟩

theorem Alike.moves {m next : Machine σ} (alike : Alike m next) : Moves m none next :=
  ⟨m, .quiet, alike⟩

theorem alike_note (m : Machine σ) (notice : Notice) : Alike m (m.note notice) :=
  ⟨rfl, rfl, fun _ => rfl, rfl, rfl, fun _ => .rfl, rfl⟩

theorem alike_retain (m : Machine σ) (cell : CellId) : Alike m (m.retain cell) :=
  ⟨rfl, rfl, state?_retain m cell, rfl, rfl, fun _ => .rfl, rfl⟩

theorem alike_release (m : Machine σ) (cell : CellId) : Alike m (m.release cell) :=
  ⟨rfl, rfl, state?_release m cell, rfl, rfl, fun _ => .rfl, rfl⟩

theorem alike_resume (m : Machine σ) : Alike m m.resume := by
  unfold resume
  split
  · split
    · exact ⟨rfl, rfl, fun _ => rfl, rfl, rfl, fun _ => .rfl, rfl⟩
    · exact .refl m
  · exact .refl m

theorem alike_reorder (m : Machine σ) (queue : List TaskId) (same : m.ready.Perm queue) :
    Alike m { m with ready := queue } :=
  ⟨rfl, rfl, fun _ => rfl, rfl, rfl, fun _ => same.mem_iff.symm, rfl⟩

theorem alike_proceed (m : Machine σ) (body next : Program σ) (owner : Owner σ)
    (running : m.focus = .program body owner) : Alike m (m.proceed next owner) := by
  refine ⟨rfl, rfl, fun _ => rfl, rfl, rfl, fun _ => .rfl, ?_⟩
  unfold debt?
  rw [running]
  cases owner <;> rfl

theorem alike_callback (m : Machine σ) (callback : Program σ) (idle : m.focus = .idle) :
    Alike m (m.proceed callback .callback) := by
  refine ⟨rfl, rfl, fun _ => rfl, rfl, rfl, fun _ => .rfl, ?_⟩
  unfold debt?
  rw [idle]
  rfl

theorem startTimer_refused (m : Machine σ) (scheduler : SchedulerId) (duration : Nat)
    (effect : TimerEffect σ) (refused : m.hosts (some scheduler) = false) :
    m.startTimer scheduler duration effect =
      (none, m.setScheduler scheduler (m.toWorld.scheduler scheduler).reserve) := by
  simp [startTimer, refused]

theorem startTimer_hosted (m : Machine σ) (scheduler : SchedulerId) (duration : Nat)
    (effect : TimerEffect σ) (hosted : m.hosts (some scheduler) = true) :
    m.startTimer scheduler duration effect =
      (some (m.toWorld.scheduler scheduler).ids.issue.1,
        (m.enroll scheduler duration effect).note
          (.timerScheduled (m.toWorld.scheduler scheduler).ids.issue.1 duration)) := by
  simp [startTimer, hosted, enroll, TimerTable.schedule]

theorem hosts_some_iff {m : Machine σ} {scheduler : SchedulerId} :
    m.hosts (some scheduler) = true ↔ m.attached = true ∧ scheduler < m.schedulers.size := by
  simp [hosts]

theorem reserve_moves (m : Machine σ) (scheduler : SchedulerId) :
    Moves m none (m.setScheduler scheduler (m.toWorld.scheduler scheduler).reserve) := by
  by_cases known : scheduler < m.schedulers.size
  · exact (Move.reserve scheduler known).moves
  · rw [setScheduler_unknown known]
    exact Move.quiet.moves

theorem timeout_moves (m : Machine σ) (scheduler : SchedulerId) (duration : Nat)
    (callback : Program σ) :
    Moves m ((m.startTimer scheduler duration (.run callback)).1.map
      (.timeout scheduler duration callback)) (m.startTimer scheduler duration (.run callback)).2 := by
  cases hosted : m.hosts (some scheduler) with
  | false =>
    rw [startTimer_refused m scheduler duration _ hosted]
    exact reserve_moves m scheduler
  | true =>
    rw [startTimer_hosted m scheduler duration _ hosted]
    have known := (hosts_some_iff.mp hosted).2
    exact (Move.timeout scheduler duration callback known).moves.then (alike_note _ _)

theorem delay_moves (m : Machine σ) (duration : Nat) (value : Value) :
    Moves m ((m.startDelay none duration value).1.map (.delay duration value))
      (m.startDelay none duration value).2 := by
  cases hosted : m.hosts none with
  | false =>
    simp only [startDelay, hosted, Bool.false_eq_true, ite_false, Option.map_none]
    exact Move.quiet.moves
  | true =>
    simp only [startDelay, hosted, ite_true]
    exact (Move.delay duration value).moves

theorem countedDelay_moves (m : Machine σ) (scheduler : SchedulerId) (duration : Nat)
    (value : Value) :
    Moves m ((m.startDelay (some scheduler) duration value).1.map
      (.countedDelay scheduler duration value (m.toWorld.scheduler scheduler).ids.issue.1))
      (m.startDelay (some scheduler) duration value).2 := by
  cases hosted : m.hosts (some scheduler) with
  | false =>
    simp only [startDelay, hosted, Bool.false_eq_true, ite_false, Option.map_none]
    exact reserve_moves m scheduler
  | true =>
    have known := (hosts_some_iff.mp hosted).2
    simp only [startDelay, hosted, ite_true]
    rw [startTimer_hosted _ scheduler duration _ (by exact hosted)]
    exact (Move.countedDelay scheduler duration value known).moves.then (alike_note _ _)

theorem attach_moves (m : Machine σ) (counter : Option SchedulerId) (source : CellId)
    (body : Value → Program σ) :
    Moves m ((m.startContinuation counter source body).1.map (.attach counter source body))
      (m.startContinuation counter source body).2 := by
  unfold startContinuation
  split
  next hosted =>
    simp only [hosts, Bool.and_eq_true, decide_eq_true_eq, Option.all_eq_true] at hosted
    have move := Move.attach (m := m) counter source body
      (fun scheduler member => by simpa using hosted.1.2 scheduler member) hosted.2
    have size : (m.retain source).cells.size = m.cells.size := by simp [retain]
    change Moves m (some (.attach counter source body (m.retain source).cells.size)) _
    rw [size]
    refine move.moves.then ⟨rfl, rfl, ?_, rfl, ?_, fun _ => .rfl, rfl⟩
    · intro cell
      have fresh := state?_newCell (m.retain source) (.pending .task) cell
      rw [size, state?_retain] at fresh
      exact fresh.trans (state?_newCell m (.pending .task) cell).symm
    · simp [newCell, spawn, retain]
  next => exact Move.quiet.moves

private theorem cancel_note (m : Machine σ) (notice : Notice) (task : TaskId) :
    (m.note notice).cancel task = (m.cancel task).note notice := by
  by_cases queued : task ∈ m.ready <;> simp [cancel, setPhase, note, queued]

theorem clear_moves (m : Machine σ) (scheduler : SchedulerId) (id : TimerId) :
    Moves m (some (.clear scheduler id (m.clearTimer scheduler id).1))
      (m.clearTimer scheduler id).2 := by
  unfold clearTimer
  cases held : (m.toWorld.scheduler scheduler).clear? id with
  | none => exact (Move.refuse scheduler id held).moves
  | some found =>
    obtain ⟨task, table⟩ := found
    simp only
    split
    next ended =>
      have gone : ∃ t, m.tasks[task]? = some t ∧ t.phase = .ended := by
        simpa [Option.any_eq_true, setScheduler, note] using ended
      exact (Move.clearGone scheduler id task table held gone).moves.then (alike_note _ _)
    next going =>
      have live : ∀ t, m.tasks[task]? = some t → t.phase ≠ .ended := by
        intro t stored ended
        exact going (by simp [setScheduler, note, stored, ended])
      apply (Move.clear scheduler id task table held live).moves.then
      change Alike _ (((m.setScheduler scheduler table).note (.timerCancelled id)).cancel task)
      rw [cancel_note]
      exact alike_note _ _

theorem Moves.proceed {m middle : Machine σ} {call : Option (Call σ)} {owner : Owner σ}
    {body : Program σ} (moves : Moves m call middle) (running : middle.focus = .program body owner)
    (next : Program σ) : Moves m call (middle.proceed next owner) :=
  moves.then (alike_proceed middle body next owner running)

theorem focus_perform (m : Machine σ) (request : Request) :
    (m.perform request).2.focus = m.focus := by
  cases request with
  | look | note | newScheduler | newDeferred | newResolved | cloneHandle | dropHandle => rfl
  | clearTimeout scheduler id =>
    simp only [perform, clearTimer]
    split
    · rfl
    · split
      · rfl
      · simp only
        split <;> rfl
  | delay counter duration value =>
    cases counter <;> simp only [perform, startDelay, startTimer] <;> split
    all_goals first | rfl | (split <;> rfl)
  | resolve cell value =>
    simp only [perform, resolve]
    split <;> simp
  | dropResolver cell =>
    simp only [perform, abandon]
    split <;> simp

theorem perform_moves (m : Machine σ) (request : Request) (next : request.Reply → Program σ)
    (owner : Owner σ) (running : m.focus = .program (.perform request next) owner) :
    Moves m m.call? (m.perform request).2 := by
  cases request with
  | look =>
    simp only [call?, running]
    exact Move.quiet.moves
  | note notice =>
    simp only [call?, running]
    exact (alike_note m notice).moves
  | newScheduler =>
    simp only [call?, running]
    exact Move.scheduler.moves
  | clearTimeout scheduler id =>
    simp only [call?, running]
    exact clear_moves m scheduler id
  | delay counter duration value =>
    cases counter with
    | none =>
      simp only [call?, running]
      exact delay_moves m duration value
    | some scheduler =>
      simp only [call?, running]
      exact countedDelay_moves m scheduler duration value
  | newDeferred =>
    simp only [call?, running]
    exact (Move.create _ (.inl rfl)).moves
  | newResolved value =>
    simp only [call?, running]
    exact (Move.create _ (.inr ⟨value, rfl⟩)).moves
  | resolve cell value =>
    simp only [call?, running, perform]
    split
    next held => exact (Move.settle cell _ (any_isOpen_iff.mp held) (.inr ⟨value, rfl⟩)).moves
    next => exact Move.quiet.moves
  | dropResolver cell =>
    simp only [call?, running, perform]
    split
    next held => exact (Move.settle cell _ (any_isOpen_iff.mp held) (.inl rfl)).moves
    next => exact Move.quiet.moves
  | cloneHandle cell =>
    simp only [call?, running]
    exact (alike_retain m cell).moves
  | dropHandle cell =>
    simp only [call?, running]
    exact (alike_release m cell).moves

/-- A script or a callback owes nothing when it ends; a continuation settles what it owes. -/
theorem conclude_moves (m : Machine σ) (outcome : Outcome) (owner : Owner σ)
    (running : m.focus = .program (.finish outcome) owner) :
    Moves m m.call? (m.conclude outcome owner) := by
  cases owner with
  | script next =>
    simp only [call?, running]
    refine Alike.moves ⟨rfl, rfl, fun _ => rfl, rfl, rfl, fun _ => .rfl, ?_⟩
    simp [debt?, running, conclude]
  | callback =>
    simp only [call?, running]
    refine Alike.moves ⟨rfl, rfl, fun _ => rfl, rfl, rfl, fun _ => .rfl, ?_⟩
    simp [debt?, running, conclude]
  | continuation source target =>
    simp only [call?, running]
    have move := (Move.conclude source target outcome running).moves
    cases outcome <;> exact move.then (alike_release _ source)

theorem execute_moves (m : Machine σ) (body : Program σ) (owner : Owner σ)
    (running : m.focus = .program body owner) : Moves m m.call? (m.execute owner body) := by
  cases body with
  | finish outcome => exact conclude_moves m outcome owner running
  | read next =>
    simp only [call?, running, execute]
    exact Move.quiet.moves.proceed running _
  | write memory next =>
    simp only [call?, running, execute]
    have kept : Alike m { m with memory } := ⟨rfl, rfl, fun _ => rfl, rfl, rfl, fun _ => .rfl, rfl⟩
    exact kept.moves.proceed running next
  | perform request next =>
    exact (perform_moves m request next owner running).proceed
      ((focus_perform m request).trans running) _
  | define function next =>
    simp only [call?, running, execute]
    have kept : Alike m { m with functions := m.functions.push function } :=
      ⟨rfl, rfl, fun _ => rfl, rfl, rfl, fun _ => .rfl, rfl⟩
    exact kept.moves.proceed running _
  | call function arguments next =>
    simp only [call?, running, execute]
    split
    · exact (Move.function function arguments).moves.proceed running _
    · exact Move.quiet.moves.proceed running _
  | setTimeout scheduler duration callback next =>
    simp only [call?, running, execute]
    refine (timeout_moves m scheduler duration callback).proceed (Eq.trans ?_ running) _
    unfold startTimer
    split <;> rfl
  | attach counter source continuation next =>
    simp only [call?, running, execute]
    refine (attach_moves m counter source continuation).proceed (Eq.trans ?_ running) _
    unfold startContinuation
    split <;> rfl

theorem discard_alike (m : Machine σ) (id : TaskId) (task : Task σ) (found : m.tasks[id]? = some task)
    (live : task.phase ≠ .ended) :
    match task.job.target? with
    | none => Alike (m.setPhase id .ended) (m.discard id)
    | some target => Alike ((m.setPhase id .ended).settle target .abandoned) (m.discard id) := by
  have going : (task.phase == .ended) = false := by simpa using live
  simp only [discard, found, going, Bool.false_eq_true, ite_false]
  cases task.job with
  | timer scheduler timer duration effect => cases effect <;> exact .refl _
  | delay duration target value => exact .refl _
  | continuation counter source target body => exact alike_release _ source

/-- A task that is cancelled, or whose source is lost, is dropped, and so is what it owes. -/
theorem discard_moves (m : Machine σ) (id : TaskId) (rest : List TaskId) (task : Task σ)
    (polled : Polled m id rest task) (live : task.phase ≠ .ended)
    (reason : task.phase = .cancelled ∨ ∃ counter source target body,
      task.job = .continuation counter source target body ∧
        ∀ state, m.toWorld.state? source = some state → state = .abandoned) :
    Moves m none ({ m with ready := rest }.discard id) := by
  have alike := discard_alike { m with ready := rest } id task polled.found live
  cases owing : task.job.target? with
  | none =>
    simp only [owing] at alike
    rcases reason with cancelled | ⟨counter, source, target, body, job, lost⟩
    · exact (Move.drop id rest task polled cancelled owing).moves.then alike
    · simp [job, Job.target?] at owing
  | some target =>
    simp only [owing] at alike
    refine (Move.dropOwing id rest task target polled live ?_ owing).moves.then alike
    rcases reason with cancelled | ⟨counter, source, own, body, job, lost⟩
    · exact .inl cancelled
    · have same : own = target := by simpa [job, Job.target?] using owing
      exact .inr ⟨counter, source, body, same ▸ job, lost⟩

private theorem settle_note (m : Machine σ) (notice : Notice) (cell : CellId) (state : CellState) :
    (m.note notice).settle cell state = (m.settle cell state).note notice := by
  by_cases pending : (m.cells[cell]?).any Cell.isPending = true
  · simp [settle, note, pending, tasksWhere]
  · simp [settle, note, pending]

theorem fire_moves (m : Machine σ) (id : TaskId) (rest : List TaskId) (task : Task σ)
    (scheduler : SchedulerId) (timer : TimerId) (duration : Nat) (effect : TimerEffect σ)
    (awake : Awake m id rest task) (job : task.job = .timer scheduler timer duration effect)
    (due : task.deadline?.getD (m.now + duration) ≤ m.now) :
    Moves m none ({ m with ready := rest }.fire id scheduler timer effect) := by
  have same : (({ m with ready := rest }.setPhase id .ended).toWorld.scheduler scheduler).fire? timer =
      (m.toWorld.scheduler scheduler).fire? timer := rfl
  simp only [fire, same]
  cases fired : (m.toWorld.scheduler scheduler).fire? timer with
  | none => exact (Move.stale id rest task scheduler timer duration effect awake job fired).moves
  | some table =>
    cases effect with
    | run callback =>
      refine (Move.fireCallback id rest task scheduler timer duration callback table awake job due
        fired).moves.then ?_
      refine .trans (alike_note _ (.timerFired timer)) ?_
      exact alike_callback _ callback awake.idle
    | resolve target value =>
      refine (Move.fireDelay id rest task scheduler timer duration target value table awake job due
        fired).moves.then ?_
      have noted := settle_note (((m.lastTurn id rest).setScheduler scheduler table).enter
        (.timer scheduler timer m.now)) (.timerFired timer) target (.resolved value m.now)
      exact Eq.subst (motive := fun final => Alike _ final) noted.symm (alike_note _ _)

theorem startBody_moves (m : Machine σ) (id : TaskId) (rest : List TaskId) (task : Task σ)
    (counter : Option SchedulerId) (source target : CellId) (body : Value → Program σ) (value : Value)
    (time : Nat) (awake : Awake m id rest task)
    (job : task.job = .continuation counter source target body)
    (resolved : m.toWorld.state? source = some (.resolved value time)) :
    Moves m none ({ m with ready := rest }.startBody id counter source target body value) := by
  cases counter with
  | none => exact (Move.startBody id rest task source target body value time awake job resolved).moves
  | some scheduler =>
    exact (Move.startCounted id rest task scheduler source target body value time awake job
      resolved).moves

theorem poll_moves (m : Machine σ) (id : TaskId) (rest : List TaskId) (idle : m.focus = .idle)
    (queue : m.ready = id :: rest) : Moves m none ({ m with ready := rest }.poll id) := by
  unfold poll
  simp only
  cases found : m.tasks[id]? with
  | none => exact (Move.skip id rest idle queue (by simp [found])).moves
  | some task =>
    have polled : Polled m id rest task := ⟨idle, queue, found⟩
    have awake (live : task.phase ≠ .ended) (held : task.phase ≠ .cancelled) :
        Awake m id rest task := ⟨polled, live, held⟩
    simp only
    split
    next ended =>
      have done : ∀ t, m.tasks[id]? = some t → t.phase = .ended := by
        intro t stored
        rw [found] at stored
        cases stored
        exact ended
      exact (Move.skip id rest idle queue done).moves
    next cancelled => exact discard_moves m id rest task polled (by simp [cancelled]) (.inl cancelled)
    next live held =>
      have turn := awake live held
      split
      next scheduler timer duration effect job =>
        split
        next due => exact fire_moves m id rest task scheduler timer duration effect turn job due
        next early =>
          exact (Move.sleep id rest task duration turn (by simp [job, Job.duration?])
            (Nat.lt_of_not_le early)).moves
      next duration target value job =>
        split
        next due =>
          exact (Move.finishDelay id rest task duration target value turn job due).moves
        next early =>
          exact (Move.sleep id rest task duration turn (by simp [job, Job.duration?])
            (Nat.lt_of_not_le early)).moves
      next counter source target body job =>
        split
        next value time resolved =>
          exact startBody_moves m id rest task counter source target body value time turn job resolved
        next writer pending =>
          exact (Move.wait id rest task counter source target body writer turn job pending).moves
        next unresolved unpending =>
          refine discard_moves m id rest task polled live
            (.inr ⟨counter, source, target, body, job, ?_⟩)
          intro state stored
          cases state with
          | pending writer => exact absurd stored (unpending writer)
          | resolved value time => exact absurd stored (unresolved value time)
          | abandoned => rfl

theorem mem_deadlines {m : Machine σ} {id : TaskId} {task : Task σ} {deadline : Nat}
    (found : m.tasks[id]? = some task) (sleeping : task.phase = .sleeping deadline) :
    deadline ∈ m.deadlines := by
  simp only [deadlines, List.mem_append, List.mem_filterMap]
  refine .inl ⟨task, ?_, by simp [Task.deadline?, sleeping]⟩
  exact Array.mem_toList_iff.mpr (Array.mem_of_getElem? found)

/-- The deadline of a wait that is not over lies ahead. -/
theorem deadlines_ahead {m : Machine σ} {deadline : Nat} (member : deadline ∈ m.deadlines)
    (waiting : ∀ alarm next, m.script = .waiting alarm next → m.answer? alarm = none) :
    m.now < deadline ∨ ∃ (id : TaskId) (task : Task σ),
      m.tasks[id]? = some task ∧ task.phase = .sleeping deadline := by
  simp only [deadlines, List.mem_append, List.mem_filterMap] at member
  rcases member with ⟨task, member, asleep⟩ | alarm
  · obtain ⟨id, found⟩ := List.mem_iff_getElem?.mp member
    refine .inr ⟨id, task, by simpa using found, ?_⟩
    unfold Task.deadline? at asleep
    split at asleep
    next same => cases asleep; exact same
    next => cases asleep
  · apply Or.inl
    split at alarm
    next limit next script =>
      have unanswered := waiting _ _ script
      simp only [Option.mem_toList, Option.some.injEq] at alarm
      subst alarm
      simpa [answer?] using unanswered
    next cell limit next script =>
      have unanswered := waiting _ _ script
      simp only [Option.mem_toList] at alarm
      subst alarm
      simp only [answer?] at unanswered
      split at unanswered <;> simp_all
    next => simp at alarm

theorem elapse_moves (m : Machine σ) (time : Nat) (idle : m.focus = .idle) (empty : m.ready = [])
    (next : m.deadlines.min? = some time)
    (waiting : ∀ alarm next, m.script = .waiting alarm next → m.answer? alarm = none) :
    Moves m none (m.elapse time) := by
  have least := List.min?_eq_some_iff.mp next
  refine (Move.elapse time idle empty ?_ (deadlines_ahead least.1 waiting)).moves.then ?_
  · intro id task found deadline sleeping
    exact least.2 _ (mem_deadlines found sleeping)
  · unfold elapse
    rw [empty]
    exact alike_resume _

theorem turn_moves (m next : Machine σ) (idle : m.focus = .idle) (taken : m.turn? = some next) :
    Moves m none next := by
  unfold turn? at taken
  split at taken
  next id rest queue =>
    cases taken
    exact poll_moves m id rest idle queue
  next empty =>
    split at taken
    next alarm rest script =>
      split at taken
      next =>
        cases taken
        exact (alike_resume m).moves
      next unanswered =>
        obtain ⟨time, least, rfl⟩ := Option.map_eq_some_iff.mp taken
        apply elapse_moves m time idle empty least
        intro other after same
        rw [script] at same
        cases same
        simpa using unanswered
    next elsewhere =>
      obtain ⟨time, least, rfl⟩ := Option.map_eq_some_iff.mp taken
      apply elapse_moves m time idle empty least
      intro alarm after waiting
      exact absurd waiting (elsewhere alarm after)

theorem advance_alike (m : Machine σ) (script : Script σ) (idle : m.focus = .idle) :
    Alike m (m.advance script) := by
  cases script with
  | finish outcome => exact ⟨rfl, rfl, fun _ => rfl, rfl, rfl, fun _ => .rfl, rfl⟩
  | run body next =>
    refine ⟨rfl, rfl, fun _ => rfl, rfl, rfl, fun _ => .rfl, ?_⟩
    simp [advance, proceed, debt?, idle]
  | pause wait next =>
    have kept : Alike m { m with script := .waiting (m.arm (wait m.memory)) next } :=
      ⟨rfl, rfl, fun _ => rfl, rfl, rfl, fun _ => .rfl, rfl⟩
    exact kept.trans (alike_resume _)

theorem step_moves (m next : Machine σ) (taken : m.step? = some next) : Moves m m.call? next := by
  unfold step? at taken
  split at taken
  next body owner running =>
    cases taken
    exact execute_moves m body owner running
  next idle =>
    have silent : m.call? = none := by simp [call?, idle]
    rw [silent]
    split at taken
    next script ready => cases taken; exact (advance_alike m script idle).moves
    next => cases taken
    next => exact turn_moves m next idle taken

/-- A property of histories and machines that no move can end, where another one holds already. -/
structure Invariant (given kept : List (Record σ) → Machine σ → Prop) : Prop where
  alike : ∀ {history m n}, Alike m n → kept history m → kept history n
  move : ∀ {history m n call}, given history m → Move m call n → kept history m →
    kept (m.noted call ++ history) n

theorem Invariant.turn {given kept : List (Record σ) → Machine σ → Prop}
    (invariant : Invariant given kept) {history new : List (Record σ)} {m next : Machine σ}
    (turn : Turn m new next) (known : given history m) (holds : kept history m) :
    kept (new ++ history) next := by
  cases turn with
  | step taken =>
    obtain ⟨middle, move, alike⟩ := step_moves m next taken
    exact invariant.alike alike (invariant.move known move holds)
  | note notice => exact invariant.alike (alike_note m notice) holds
  | reorder queue same => exact invariant.alike (alike_reorder m queue same) holds
  | wake idle => exact invariant.alike (alike_resume m) holds

/-- What holds at first and survives every move holds in every run. -/
theorem Invariant.traced {given kept : List (Record σ) → Machine σ → Prop}
    (invariant : Invariant given kept) {first last : Machine σ} {history : List (Record σ)}
    (run : Traced first history last)
    (known : ∀ {history m}, Traced first history m → given history m) (holds : kept [] first) :
    kept history last := by
  induction run with
  | start => exact holds
  | turn run turn ih => exact invariant.turn turn (known run) ih

end RuleHost.Loop.Machine
