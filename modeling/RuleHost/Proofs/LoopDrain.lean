import RuleHost.Proofs.ContinuationCounts
import RuleHost.Proofs.ContinuationRuns
import RuleHost.Proofs.TimerFates

/-! A loop that runs dry. Where every task has ended, no timer is left in a table, and every deferred value
that a task was to settle has come to what its source, its delay or its timer made of it. -/

namespace RuleHost.Loop.Machine

variable {σ : Type}

/-- What is left of a loop that has run dry, once it is taken away. -/
structure Drained (first : Machine σ) (history : List (Record σ)) (last m : Machine σ) : Prop where
  tables : ∀ scheduler, (m.toWorld.scheduler scheduler).pending.size = 0 ∧
    (m.toWorld.scheduler scheduler).stats.outstanding = 0
  timers : ∀ scheduler, ∀ id ∈ issued scheduler history, clearings scheduler id history = 0 →
    firings scheduler id m.entries = 1
  delays : ∀ time duration value handle, ⟨time, .delay duration value handle⟩ ∈ history →
    m.toWorld.state? handle = some (.resolved value (time + duration))
  countedDelays : ∀ time scheduler duration value id handle,
    ⟨time, .countedDelay scheduler duration value id handle⟩ ∈ history →
      m.toWorld.state? handle = if clearings scheduler id history = 0 then
        some (.resolved value (time + duration)) else some .abandoned
  continuations : ∀ time counter source body handle,
    ⟨time, .attach counter source body handle⟩ ∈ history →
      (∃ value settled outcome, m.toWorld.state? source = some (.resolved value settled) ∧
        Answers first history last source handle (body value) outcome ∧
          m.toWorld.state? handle = some (.ofOutcome (max time settled) outcome)) ∨
      m.toWorld.state? source = some .abandoned ∧ m.toWorld.state? handle = some .abandoned
  mapped : ∀ time counter source body handle, ⟨time, .attach counter source body handle⟩ ∈ history →
    ∀ f : Value → Value, (∀ value, body value = .finish (.ok (f value))) →
      ∀ value settled, m.toWorld.state? source = some (.resolved value settled) →
        m.toWorld.state? handle = some (.resolved (f value) (max time settled))
  counted : ∀ scheduler, (m.toWorld.scheduler scheduler).stats.continuations =
    history.countP fun record => record.call.counts scheduler m.toWorld

theorem ended_of_isDrained {m : Machine σ} (drained : m.isDrained = true) {id : TaskId} {task : Task σ}
    (found : m.tasks[id]? = some task) : task.phase = .ended := by
  unfold isDrained at drained
  have ended := Array.all_eq_true_iff_forall_mem.mp drained task (Array.mem_of_getElem? found)
  simpa using ended

theorem idle_of_still {m : Machine σ} (still : m.step? = none) : m.focus = .idle := by
  unfold step? at still
  split at still
  next => cases still
  next idle => exact idle

/-- Where all tasks have ended, nothing is left to be dropped. -/
theorem tearDown_drained {m : Machine σ} (drained : m.isDrained = true) :
    m.tearDown = { m with ready := [], attached := false } := by
  have fold (ids : List TaskId) : ids.foldl discard m = m := by
    induction ids with
    | nil => rfl
    | cons id rest ih =>
      rw [List.foldl_cons, discard_ended fun task => ended_of_isDrained drained]
      exact ih
  rw [tearDown, fold]

section Ended

variable {history : List (Record σ)} {m : Machine σ}

theorem Standing.tables_empty (standing : Standing history m) (drained : m.isDrained = true)
    (scheduler : SchedulerId) (timer : TimerId) :
    (m.toWorld.scheduler scheduler).pending.contains timer = false := by
  rw [Table.contains_eq_isSome]
  cases waits : (m.toWorld.scheduler scheduler).pending.find? timer with
  | none => rfl
  | some id =>
    obtain ⟨task, _, _, found, _, live, _⟩ := standing.held scheduler timer id waits
    exact absurd (ended_of_isDrained drained found) live

theorem Standing.pending_size (standing : Standing history m) (drained : m.isDrained = true)
    (scheduler : SchedulerId) : (m.toWorld.scheduler scheduler).pending.size = 0 := by
  rw [Table.size_eq_length_keys, List.length_eq_zero_iff]
  apply List.eq_nil_iff_forall_not_mem.mpr
  intro timer
  exact Table.contains_eq_false_iff.mp (standing.tables_empty drained scheduler timer)

theorem Standing.concluded (standing : Standing history m) (idle : m.focus = .idle)
    (drained : m.isDrained = true) (filed : Filed history m) {record : Record σ}
    (member : record ∈ history) {job : Job σ} (starts : record.call.job? = some job) :
    Concluded history m record.time job := by
  obtain ⟨id, task, found, born, same⟩ := filed.task member starts
  rw [← born, ← same]
  rcases (standing.tasks id task found).ended (ended_of_isDrained drained found) with left | running
  · exact left
  · exact absurd running (not_underway idle)

theorem Standing.fired (standing : Standing history m) (orderly : Orderly history m)
    (drained : m.isDrained = true) {scheduler : SchedulerId} {id : TimerId}
    (handed : id ∈ issued scheduler history) :
    firings scheduler id m.entries + clearings scheduler id history = 1 := by
  have fate := (orderly.ledger scheduler).fate handed
  rw [standing.tables_empty drained] at fate
  simpa using fate

theorem mem_issued {record : Record σ} {scheduler : SchedulerId} {id : TimerId}
    (member : record ∈ history) (issues : record.call.issues? scheduler = some id) :
    id ∈ issued scheduler history :=
  List.mem_filterMap.mpr ⟨record, member, issues⟩

theorem firings_pos {entries : List Entry} {scheduler : SchedulerId} {id : TimerId} {time : Nat}
    (entered : .timer scheduler id time ∈ entries) : 0 < firings scheduler id entries :=
  List.countP_pos_iff.mpr ⟨_, entered, by simp [Entry.fires]⟩

theorem Standing.countedDelay (standing : Standing history m) (orderly : Orderly history m)
    (filed : Filed history m) (idle : m.focus = .idle) (drained : m.isDrained = true) {time : Nat}
    {scheduler : SchedulerId} {duration : Nat} {value : Value} {id : TimerId} {handle : CellId}
    (member : ⟨time, .countedDelay scheduler duration value id handle⟩ ∈ history) :
    m.toWorld.state? handle = if clearings scheduler id history = 0 then
      some (.resolved value (time + duration)) else some .abandoned := by
  have handed : id ∈ issued scheduler history := mem_issued member (by simp [Call.issues?])
  have fate := standing.fired orderly drained handed
  have left := standing.concluded idle drained filed member rfl
  cases left with
  | resolved entered left =>
    have fired := firings_pos entered
    rw [if_pos (by omega)]
    exact left
  | cleared taken left =>
    rw [if_neg (by omega)]
    exact left handle value rfl

/-- A continuation has answered with its own program if its source was resolved. -/
theorem Standing.continuation (standing : Standing history m) (orderly : Orderly history m)
    (filed : Filed history m) (idle : m.focus = .idle) (drained : m.isDrained = true)
    {first : Machine σ} (faithful : Faithful first history m) {time : Nat}
    {counter : Option SchedulerId} {source handle : CellId} {body : Value → Program σ}
    (member : ⟨time, .attach counter source body handle⟩ ∈ history) :
    (∃ value settled outcome, m.toWorld.state? source = some (.resolved value settled) ∧
      Answers first history m source handle (body value) outcome ∧
        m.toWorld.state? handle = some (.ofOutcome (max time settled) outcome)) ∨
    m.toWorld.state? source = some .abandoned ∧ m.toWorld.state? handle = some .abandoned := by
  have left := standing.concluded idle drained filed member rfl
  cases left with
  | lost awaited left => exact .inr ⟨awaited, left⟩
  | @continued _ _ _ _ value settled outcome awaited entered answered left =>
    refine .inl ⟨value, settled, outcome, awaited, ?_, left⟩
    obtain ⟨_, _, given, answers⟩ := faithful.answered _ _ _ answered
    obtain ⟨other, second, _, _, _, _, found, job, resolved, rfl⟩ := given
    obtain ⟨id, task, stored, _, work⟩ := filed.task member rfl
    obtain rfl := orderly.owing.unique found stored (by rw [job, Job.target?]) (by rw [work, Job.target?])
    cases job.symm.trans work
    cases awaited.symm.trans resolved
    exact answers

end Ended

/-- A run that returns has finished, and a run that has finished in whatever order has drained the loop,
whatever the script and the callbacks it started have started in turn. -/
theorem run_drains {memory : σ} {script : Script σ} {attached : Bool} :
    (∀ fuel final, run fuel (start memory script attached) = some final →
      ∃ history last, Finished (start memory script attached) history last final) ∧
    ∀ history last final, Finished (start memory script attached) history last final →
      Drained (start memory script attached) history last final := by
  refine ⟨fun _ _ => run_finished, ?_⟩
  rintro history last _ ⟨run, still, drained, rfl⟩
  have standing := run.standing
  have orderly := run.orderly
  have filed := run.filed
  have idle := idle_of_still still
  have faithful := run.faithful rfl
  rw [tearDown_drained drained]
  refine ⟨?_, ?_, ?_, ?_, ?_, ?_, ?_⟩
  · intro scheduler
    have empty := standing.pending_size drained scheduler
    have balance := (orderly.ledger scheduler).balance
    refine ⟨empty, ?_⟩
    change (last.toWorld.scheduler scheduler).stats.outstanding = 0
    unfold TimerStats.outstanding
    omega
  · intro scheduler id handed uncleared
    have fate := standing.fired orderly drained handed
    change firings scheduler id last.entries = 1
    omega
  · intro time duration value handle member
    have left := standing.concluded idle drained filed member rfl
    cases left with
    | delayed entered left => exact left
  · intro time scheduler duration value id handle member
    exact standing.countedDelay orderly filed idle drained member
  · intro time counter source body handle member
    exact standing.continuation orderly filed idle drained faithful member
  · intro time counter source body handle member f pure value settled resolved
    rcases standing.continuation orderly filed idle drained faithful member with
      ⟨argument, moment, outcome, awaited, answers, left⟩ | ⟨lost, _⟩
    · cases awaited.symm.trans resolved
      rw [pure value] at answers
      rw [answers.finished] at left
      exact left
    · cases lost.symm.trans resolved
  · intro scheduler
    have ended : ∀ task ∈ last.tasks.toList, task.phase = .ended := by
      intro task present
      obtain ⟨id, found⟩ := List.mem_iff_getElem?.mp present
      exact ended_of_isDrained drained (by simpa using found)
    exact run.tally.drained filed ended scheduler

/-- A continuation of a delay starts a timer while the loop is drained already, and another delay is
cleared under its continuation. -/
def branching : Script Unit :=
  let grow (value : Value) : Program Unit :=
    .setTimeout 0 5 (.finish (.ok .undefined)) fun _ => .finish (.ok value)
  let pass (value : Value) : Program Unit := .finish (.ok value)
  .run (.perform (.delay (some 0) 10 .null) fun kept => .perform (.delay (some 0) 20 .null) fun lost =>
    .attach (some 0) (kept.getD 0) grow fun _ => .attach (some 0) (lost.getD 0) pass fun _ =>
      .perform (.clearTimeout 0 ⟨2⟩) fun _ => .finish (.ok .undefined)) .finish

private def branched : Machine Unit := (runScript 60 (start () branching)).getD (start () branching)

private def settledBranches : Machine Unit := (settleAll 60 (branched.note .draining)).getD branched

theorem run_drains_branching : ∃ (history : List (Record Unit)) (last final : Machine Unit),
    run 60 (start () branching) = some final ∧ (final.toWorld.scheduler 0).stats = ⟨3, 2, 1, 1⟩ ∧
    Finished (start () branching) history last final ∧
    Drained (start () branching) history last final := by
  have scripted : runScript 60 (start () branching) = some branched := rfl
  have settled : settleAll 60 (branched.note .draining) = some settledBranches := rfl
  have drained : settledBranches.isDrained = true := by
    rw [isDrained, ← Array.all_toList]
    rfl
  have returned : run 60 (start () branching) = some settledBranches.tearDown := by
    rw [run, scripted, Option.bind_some, drain, settled, Option.bind_some, if_pos drained]
  have stats : (settledBranches.tearDown.toWorld.scheduler 0).stats = ⟨3, 2, 1, 1⟩ := by
    rw [tearDown_drained drained]
    rfl
  obtain ⟨history, last, finished⟩ := run_drains.1 _ _ returned
  exact ⟨history, last, _, returned, stats, finished, run_drains.2 _ _ _ finished⟩

end RuleHost.Loop.Machine
