import RuleHost.Proofs.LoopTeardown
import RuleHost.Proofs.ScriptProgress

/-! The two ways to run a script. They are the same up to the moment at which the script ends. If it has
ended with a value they go on alike; if it has failed, one of them stops there, and what it has done is the
beginning of what the other one does. -/

namespace RuleHost.Loop.Machine

variable {σ : Type}

theorem runScript_mono {fuel bound : Nat} (less : fuel ≤ bound) {m last : Machine σ}
    (body : runScript fuel m = some last) : runScript bound m = some last := by
  induction fuel generalizing m bound with
  | zero => cases body
  | succ fuel ih =>
    obtain ⟨more, rfl⟩ := Nat.exists_eq_add_of_le less
    rw [runScript] at body
    rw [Nat.add_right_comm, runScript]
    split at body
    next done => rw [if_pos done]; exact body
    next running =>
      obtain ⟨next, taken, rest⟩ := Option.bind_eq_some_iff.mp body
      rw [if_neg running, taken, Option.bind_some]
      exact ih (by omega) rest

/-- The machine in which the body of a script ends does not depend on the bound. -/
theorem runScript_inj {fuel bound : Nat} {m last other : Machine σ}
    (body : runScript fuel m = some last) (again : runScript bound m = some other) : other = last := by
  have left := runScript_mono (Nat.le_max_left fuel bound) body
  have right := runScript_mono (Nat.le_max_right fuel bound) again
  exact Option.some.inj (right.symm.trans left)

theorem outcome?_eq_some_iff {m : Machine σ} {outcome : Outcome} :
    m.outcome? = some outcome ↔ m.script = .ended outcome := by
  unfold outcome?
  split
  next ended script => simp [script]
  next other =>
    refine ⟨fun absent => ?_, fun script => absurd script (other outcome)⟩
    cases absent

theorem outcome?_ready {m : Machine σ} {script : Script σ} (ready : m.script = .ready script) :
    m.outcome? = none := by simp only [outcome?, ready]

/-- A script ends by its own last word, and that is heard only where nothing runs. -/
theorem idle_of_ending {m next : Machine σ} {outcome : Outcome} (going : m.outcome? = none)
    (taken : m.step? = some next) (ended : next.outcome? = some outcome) : next.focus = .idle := by
  have script := outcome?_eq_some_iff.mp ended
  cases stride_step taken with
  | aside aside =>
    have before := outcome?_eq_some_iff.mpr (aside.script.symm.trans script)
    cases going.symm.trans before
  | returned _ _ _ idle => exact idle
  | ended _ _ idle => exact idle
  | began _ _ _ goes => cases goes.symm.trans script
  | paused _ _ _ idle => exact idle
  | answered _ _ _ _ _ idle => exact idle

/-- No program runs when the body of a script ends. -/
theorem runScript_idle {fuel : Nat} {m last : Machine σ} (going : m.outcome? = none)
    (body : runScript fuel m = some last) : last.focus = .idle := by
  induction fuel generalizing m with
  | zero => cases body
  | succ fuel ih =>
    rw [runScript, going] at body
    obtain ⟨next, taken, rest⟩ := Option.bind_eq_some_iff.mp body
    cases ended : next.outcome? with
    | none => exact ih ended rest
    | some outcome =>
      have same : last = next := by
        cases fuel with
        | zero => cases rest
        | succ fuel =>
          rw [runScript, ended] at rest
          exact (Option.some.inj rest).symm
      rw [same]
      exact idle_of_ending going taken ended

/-- A script that has not ended after some steps had not ended before. -/
theorem outcome?_before {count : Nat} {m next n : Machine σ} (going : m.outcome? = none)
    (taken : m.step? = some next) (steps : after count next = some n) (later : n.outcome? = none) :
    next.outcome? = none := by
  cases ended : next.outcome? with
  | none => rfl
  | some outcome =>
    obtain ⟨history, run⟩ := after_traced steps
    have idle := idle_of_ending going taken ended
    have still := run.ended (.of_idle idle) (outcome?_eq_some_iff.mp ended)
    cases later.symm.trans (outcome?_eq_some_iff.mpr still)

theorem runScript_skip {count fuel : Nat} {m n : Machine σ} (going : m.outcome? = none)
    (steps : after count m = some n) (later : n.outcome? = none) :
    runScript (count + fuel) m = runScript fuel n := by
  induction count generalizing m with
  | zero =>
    cases steps
    rw [Nat.zero_add]
  | succ count ih =>
    obtain ⟨next, taken, rest⟩ := Option.bind_eq_some_iff.mp steps
    rw [Nat.add_right_comm, runScript, going, taken]
    exact ih (outcome?_before going taken rest later) rest

theorem settleAll_skip {count fuel : Nat} {m n : Machine σ} (steps : after count m = some n) :
    settleAll (count + fuel) m = settleAll fuel n := by
  induction count generalizing m with
  | zero =>
    cases steps
    rw [Nat.zero_add]
  | succ count ih =>
    obtain ⟨next, taken, rest⟩ := Option.bind_eq_some_iff.mp steps
    rw [Nat.add_right_comm, settleAll, taken]
    exact ih rest

theorem outcome?_tearDown (m : Machine σ) : m.tearDown.outcome? = m.outcome? := by
  simp only [outcome?, script_tearDown]

/-- Nothing is left to do, and nothing can come. -/
structure Spent (m : Machine σ) : Prop where
  idle : m.focus = .idle
  empty : m.ready = []
  ended : ∀ (id : TaskId) (task : Task σ), m.tasks[id]? = some task → task.phase = .ended
  finished : ∃ outcome, m.script = .ended outcome

theorem Spent.tearDown {m : Machine σ} (idle : m.focus = .idle) {outcome : Outcome}
    (finished : m.script = .ended outcome) : Spent m.tearDown := by
  refine ⟨(focus_tearDown m).trans idle, rfl, fun id task found => ?_, outcome,
    (script_tearDown m).trans finished⟩
  obtain ⟨_, _, rfl⟩ := found_tearDown found
  rfl

theorem Spent.still {m : Machine σ} (spent : Spent m) : m.step? = none := by
  obtain ⟨outcome, finished⟩ := spent.finished
  have none : m.deadlines = [] := by
    simp only [deadlines, finished, Option.toList_none, List.append_nil, List.filterMap_eq_nil_iff]
    intro task present
    obtain ⟨id, found⟩ := List.mem_iff_getElem?.mp present
    have ended := spent.ended id task (by simpa using found)
    simp only [Task.deadline?, ended]
  simp [step?, spent.idle, finished, turn?, spent.empty, none]

theorem Spent.turn {m next : Machine σ} {new : List (Record σ)} (spent : Spent m)
    (turn : Turn m new next) : Spent next ∧ new = [] ∧ next.entries = m.entries := by
  cases turn with
  | step taken => cases spent.still.symm.trans taken
  | note notice => exact ⟨⟨spent.idle, spent.empty, spent.ended, spent.finished⟩, rfl, rfl⟩
  | reorder queue same =>
    rw [spent.empty] at same
    exact ⟨⟨spent.idle, same.symm.eq_nil, spent.ended, spent.finished⟩, rfl, rfl⟩
  | wake idle =>
    obtain ⟨outcome, finished⟩ := spent.finished
    have same : m.resume = m := by simp only [resume, finished]
    rw [same]
    exact ⟨spent, rfl, rfl⟩

/-- A loop that is spent stays so, however its turns are ordered. -/
theorem Spent.traced {m last : Machine σ} {history : List (Record σ)} (spent : Spent m)
    (run : Traced m history last) : Spent last ∧ history = [] ∧ last.entries = m.entries := by
  induction run with
  | start => exact ⟨spent, rfl, rfl⟩
  | turn _ turn ih =>
    obtain ⟨before, rfl, same⟩ := ih
    obtain ⟨now, rfl, kept⟩ := before.turn turn
    exact ⟨now, rfl, kept.trans same⟩

/-- What the drain of a loop has done when it returns. -/
theorem drain_after {fuel : Nat} {m final : Machine σ} (drained : drain fuel m = some final) :
    ∃ count settled, after count (m.note .draining) = some settled ∧ settled.step? = none ∧
      final = settled.tearDown := by
  obtain ⟨settled, all, taken⟩ := Option.bind_eq_some_iff.mp drained
  obtain ⟨still, count, steps⟩ := settleAll_after all
  split at taken
  next => exact ⟨count, settled, steps, still, (Option.some.inj taken).symm⟩
  next => cases taken

/-- A run that stops where the body of its script has failed, beside one that goes on. -/
structure Stopped (first last : Machine σ) (failure : Failure) : Prop where
  returns : ∃ enough, ∀ bound, enough ≤ bound → tryRun bound first = some last.tearDown
  only : ∀ bound final, tryRun bound first = some final → final = last.tearDown
  outcome : last.tearDown.outcome? = some (.error failure)
  frozen : last.tearDown.entries = last.entries ∧ last.tearDown.schedulers = last.schedulers ∧
    last.tearDown.memory = last.memory ∧ last.tearDown.now = last.now ∧
      last.tearDown.notices = last.notices
  nothing : ∀ history n, Traced last.tearDown history n → history = [] ∧ n.entries = last.entries
  beginning : ∀ count n, after count (last.note .draining) = some n → last.entries <:+ n.entries
  whole : ∀ bound final, run bound first = some final → final.outcome? = some (.error failure) ∧
    ∃ drained, final.entries = drained ++ last.entries

/-- The two ways to run a script whose body ends in a certain machine. -/
structure Agreement (first last : Machine σ) : Prop where
  cut : ∃ count, after count first = some last ∧
    ∀ earlier < count, ∃ n, after earlier first = some n ∧ n.outcome? = none
  unique : ∀ bound other, runScript bound first = some other → other = last
  ended : last.outcome?.isSome
  succeeded : ∀ value, last.outcome? = some (.ok value) →
    (∀ bound, tryRun bound first = run bound first) ∧
      ∀ bound final, tryRun bound first = some final → final.outcome? = some (.ok value)
  failed : ∀ failure, last.outcome? = some (.error failure) → Stopped first last failure

theorem drain_outcome {fuel : Nat} {m final : Machine σ} (idle : m.focus = .idle) {outcome : Outcome}
    (ended : m.outcome? = some outcome) (drained : drain fuel m = some final) :
    final.outcome? = some outcome := by
  obtain ⟨count, settled, steps, _, rfl⟩ := drain_after drained
  obtain ⟨history, run⟩ := after_traced steps
  have finished : (m.note .draining).script = .ended outcome := outcome?_eq_some_iff.mp ended
  rw [outcome?_tearDown, outcome?_eq_some_iff]
  exact run.ended (.of_idle idle) finished

theorem drain_entries {fuel : Nat} {m final : Machine σ} (drained : drain fuel m = some final) :
    m.entries <:+ final.entries := by
  obtain ⟨count, settled, steps, _, rfl⟩ := drain_after drained
  obtain ⟨history, run⟩ := after_traced steps
  rw [entries_tearDown]
  exact run.persists.entries

theorem run_of_body {bound : Nat} {first final : Machine σ} (returned : run bound first = some final) :
    ∃ last, runScript bound first = some last ∧ drain bound last = some final :=
  Option.bind_eq_some_iff.mp returned

theorem Stopped.of_body {fuel : Nat} {first last : Machine σ} (body : runScript fuel first = some last)
    (still : last.focus = .idle) {failure : Failure} (failed : last.outcome? = some (.error failure)) :
    Stopped first last failure := by
  have finished := outcome?_eq_some_iff.mp failed
  have stops {bound : Nat} (enough : runScript bound first = some last) :
      tryRun bound first = some last.tearDown := by
    rw [tryRun, enough, Option.bind_some, failed]
  refine ⟨⟨fuel, fun bound enough => stops (runScript_mono enough body)⟩, ?_, ?_, ?_, ?_, ?_, ?_⟩
  · intro bound final returned
    obtain ⟨other, again, _⟩ := Option.bind_eq_some_iff.mp returned
    obtain rfl := runScript_inj body again
    exact Option.some.inj (returned.symm.trans (stops again))
  · rw [outcome?_tearDown]
    exact failed
  · obtain ⟨_, _, same⟩ := tearDown_frame last
    rw [same]
    exact ⟨rfl, rfl, rfl, rfl, rfl⟩
  · intro history n run
    obtain ⟨_, nothing, entries⟩ := (Spent.tearDown still finished).traced run
    refine ⟨nothing, ?_⟩
    rw [entries, entries_tearDown]
  · intro count n steps
    obtain ⟨history, run⟩ := after_traced steps
    exact run.persists.entries
  · intro bound final returned
    obtain ⟨other, again, drained⟩ := run_of_body returned
    obtain rfl := runScript_inj body again
    obtain ⟨newer, entries⟩ := drain_entries drained
    exact ⟨drain_outcome still failed drained, newer, entries.symm⟩

/-- Whatever a script does, and in whatever state it finds the loop, the two ways to run it return only
where its body does. If the body ends with a value they are the same; if it fails, the one that stops there
has entered exactly the callbacks that the other one had entered by then, and enters none afterwards. -/
theorem tryRun_agrees {first : Machine σ} {script : Script σ} (ready : first.script = .ready script) :
    (∀ bound, runScript bound first = none → run bound first = none ∧ tryRun bound first = none) ∧
    ∀ fuel last, runScript fuel first = some last → Agreement first last := by
  refine ⟨fun bound endless => ?_, fun fuel last body => ?_⟩
  · rw [run, tryRun, endless]
    exact ⟨rfl, rfl⟩
  · have still := runScript_idle (outcome?_ready ready) body
    obtain ⟨ended, count⟩ := runScript_after body
    refine ⟨count, fun bound other => runScript_inj body, ended, ?_, ?_⟩
    · intro value succeeded
      have same (bound : Nat) : tryRun bound first = run bound first := by
        rw [tryRun, run]
        cases again : runScript bound first with
        | none => rfl
        | some other =>
          obtain rfl := runScript_inj body again
          rw [Option.bind_some, Option.bind_some, succeeded]
      refine ⟨same, fun bound final returned => ?_⟩
      rw [same] at returned
      obtain ⟨other, again, drained⟩ := run_of_body returned
      obtain rfl := runScript_inj body again
      exact drain_outcome still succeeded drained
    · exact fun failure failed => .of_body body still failed

/-- A script that has waited for one of its timers when it fails, and leaves another one behind. -/
def failsLate : Script Unit :=
  let done : Program Unit := .finish (.ok .undefined)
  .run (.setTimeout 0 10 done fun _ => .setTimeout 0 30 done fun _ => done) fun _ =>
    .pause (fun _ => .sleep 15) fun _ => .finish (.error .detached)

private def failedLate : Machine Unit := (runScript 60 (start () failsLate)).getD (start () failsLate)

private def settledLate : Machine Unit := (settleAll 60 (failedLate.note .draining)).getD failedLate

theorem tryRun_agrees_failsLate : (start () failsLate).script = .ready failsLate ∧
    ∃ last tried ran, Agreement (start () failsLate) last ∧
      tryRun 60 (start () failsLate) = some tried ∧ run 60 (start () failsLate) = some ran ∧
        tried.entries = [.timer 0 ⟨1⟩ 10] ∧ ran.entries = [.timer 0 ⟨2⟩ 30, .timer 0 ⟨1⟩ 10] := by
  have body : runScript 60 (start () failsLate) = some failedLate := rfl
  have settled : settleAll 60 (failedLate.note .draining) = some settledLate := rfl
  have drained : settledLate.isDrained = true := by
    rw [isDrained, ← Array.all_toList]
    rfl
  have ran : run 60 (start () failsLate) = some settledLate.tearDown := by
    rw [run, body, Option.bind_some, drain, settled, Option.bind_some, if_pos drained]
  have ready : (start () failsLate).script = .ready failsLate := rfl
  obtain ⟨_, agreed⟩ := tryRun_agrees ready
  have agreement : Agreement (start () failsLate) failedLate := agreed 60 failedLate body
  refine ⟨ready, failedLate, failedLate.tearDown, settledLate.tearDown, agreement, ?_, ran, ?_, ?_⟩
  · rw [tryRun, body]
    rfl
  · rw [entries_tearDown]
    rfl
  · rw [entries_tearDown]
    rfl

end RuleHost.Loop.Machine
