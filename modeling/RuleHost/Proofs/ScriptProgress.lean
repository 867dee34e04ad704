import RuleHost.Proofs.ContinuationRuns

/-! How the script of a loop comes along while programs and tasks take their turns. Only the loop's own
looks at the script and the end of one of its programs move it on; timers, delays and continuations leave
it where it is. -/

namespace RuleHost.Loop.Machine

variable {σ : Type}

/-- A program of the script runs only while the script is busy with it. -/
def Scripted (m : Machine σ) : Prop :=
  ∀ body after, m.focus = .program body (.script after) → m.script = .busy

def Pauses (m : Machine σ) (alarm : Alarm) (after : Answer → Script σ) : Prop :=
  m.script = .waiting alarm after ∨
    ∃ wait, m.script = .ready (.pause wait after) ∧ alarm = m.arm (wait m.memory)

/-- The script stays where it is, and none of its programs begins. -/
structure Aside (m next : Machine σ) : Prop where
  script : next.script = m.script
  owner : ∀ body after, next.focus = .program body (.script after) →
    ∃ rest, m.focus = .program rest (.script after)

/-- What one turn can do to the script. -/
inductive Stride (m next : Machine σ) : Prop where
  | aside (aside : Aside m next)
  | returned (outcome : Outcome) (after : Outcome → Script σ)
      (running : m.focus = .program (.finish outcome) (.script after)) (idle : next.focus = .idle)
      (goes : next.script = .ready (after outcome))
  | ended (outcome : Outcome) (last : m.script = .ready (.finish outcome)) (idle : next.focus = .idle)
      (goes : next.script = .ended outcome)
  | began (body : Program σ) (after : Outcome → Script σ)
      (first : m.script = .ready (.run body after)) (goes : next.script = .busy)
  | paused (alarm : Alarm) (after : Answer → Script σ) (pauses : m.Pauses alarm after)
      (idle : next.focus = .idle) (goes : next.script = .waiting alarm after)
  | answered (alarm : Alarm) (after : Answer → Script σ) (answer : Answer)
      (pauses : m.Pauses alarm after) (reply : next.answer? alarm = some answer)
      (idle : next.focus = .idle) (goes : next.script = .ready (after answer))

theorem Aside.of_focus {m next : Machine σ} (script : next.script = m.script)
    (focus : next.focus = m.focus) : Aside m next :=
  ⟨script, fun body _ running => ⟨body, focus.symm.trans running⟩⟩

/-- Where a task begins a program, that program is not the script's. -/
theorem Aside.of_task {m next : Machine σ} (script : next.script = m.script)
    (other : ∀ body after, next.focus ≠ .program body (.script after)) : Aside m next :=
  ⟨script, fun body after running => absurd running (other body after)⟩

@[simp] theorem script_settle (m : Machine σ) (cell : CellId) (state : CellState) :
    (m.settle cell state).script = m.script := by unfold settle; split <;> rfl

theorem script_startTimer (m : Machine σ) (scheduler : SchedulerId) (duration : Nat)
    (effect : TimerEffect σ) : (m.startTimer scheduler duration effect).2.script = m.script := by
  unfold startTimer
  split <;> rfl

theorem script_startDelay (m : Machine σ) (counter : Option SchedulerId) (duration : Nat)
    (value : Value) : (m.startDelay counter duration value).2.script = m.script := by
  unfold startDelay
  split
  · cases counter with
    | none => rfl
    | some scheduler => exact script_startTimer _ scheduler duration _
  · cases counter <;> rfl

theorem script_clearTimer (m : Machine σ) (scheduler : SchedulerId) (id : TimerId) :
    (m.clearTimer scheduler id).2.script = m.script := by
  unfold clearTimer
  split
  · rfl
  · simp only
    split
    · rfl
    · split <;> rfl

theorem script_startContinuation (m : Machine σ) (counter : Option SchedulerId) (source : CellId)
    (body : Value → Program σ) : (m.startContinuation counter source body).2.script = m.script := by
  unfold startContinuation
  split <;> rfl

theorem script_perform (m : Machine σ) (request : Request) :
    (m.perform request).2.script = m.script := by
  cases request with
  | look | note | newScheduler | newDeferred | newResolved | cloneHandle | dropHandle => rfl
  | clearTimeout scheduler id => exact script_clearTimer m scheduler id
  | delay counter duration value => exact script_startDelay m counter duration value
  | resolve cell value =>
    simp only [perform]
    split
    · exact script_settle m cell _
    · rfl
  | dropResolver cell =>
    simp only [perform]
    split
    · exact script_settle m cell _
    · rfl

theorem script_discard (m : Machine σ) (id : TaskId) : (m.discard id).script = m.script := by
  obtain ⟨_, _, _, same⟩ := discard_frame m id
  rw [same]

theorem aside_fire (m : Machine σ) (id : TaskId) (scheduler : SchedulerId) (timer : TimerId)
    (effect : TimerEffect σ) : Aside m (m.fire id scheduler timer effect) := by
  simp only [fire]
  split
  · exact .of_focus rfl rfl
  · cases effect with
    | run callback => exact .of_task rfl (by simp [proceed])
    | resolve target value =>
      refine .of_focus (script_settle _ _ _) ?_
      exact focus_settle _ _ _

theorem aside_startBody (m : Machine σ) (id : TaskId) (counter : Option SchedulerId)
    (source target : CellId) (body : Value → Program σ) (value : Value) :
    Aside m (m.startBody id counter source target body value) := by
  cases counter with
  | none => exact .of_task rfl (by simp [startBody, proceed])
  | some scheduler => exact .of_task rfl (by simp [startBody, proceed])

theorem aside_poll (m : Machine σ) (id : TaskId) : Aside m (m.poll id) := by
  have discarded : Aside m (m.discard id) := .of_focus (script_discard m id) (focus_discard m id)
  unfold poll
  split
  · exact .of_focus rfl rfl
  · split
    · exact .of_focus rfl rfl
    · exact discarded
    · split
      · simp only
        split
        · exact aside_fire m id _ _ _
        · exact .of_focus rfl rfl
      · simp only
        split
        · exact .of_focus (script_settle _ _ _) (focus_settle _ _ _)
        · exact .of_focus rfl rfl
      · split
        · exact aside_startBody m id _ _ _ _ _
        · exact .of_focus rfl rfl
        · exact discarded

/-- Whoever owns a program, only the end of one that is the script's own moves the script. -/
theorem stride_execute {m : Machine σ} {body : Program σ} {owner : Owner σ}
    (running : m.focus = .program body owner) : Stride m (m.execute owner body) := by
  have proceeds {next : Machine σ} {rest : Program σ} (script : next.script = m.script)
      (focus : next.focus = .program rest owner) : Stride m next := by
    refine .aside ⟨script, fun other after same => ⟨body, ?_⟩⟩
    cases focus.symm.trans same
    exact running
  cases body with
  | finish outcome =>
    cases owner with
    | script after => exact .returned outcome after running rfl rfl
    | callback => exact .aside (.of_task rfl (by simp [execute, conclude]))
    | continuation source target =>
      refine .aside (.of_task ?_ ?_)
      · cases outcome with
        | ok value => exact script_settle { m with focus := .idle } target _
        | error failure => exact script_settle { m with focus := .idle } target _
      · have idle := focus_conclude m outcome (.continuation source target)
        simp [execute, idle]
  | read next | write memory next | define function next => exact proceeds rfl rfl
  | perform request next => exact proceeds (script_perform m request) rfl
  | call function arguments next =>
    simp only [execute]
    split
    · exact proceeds rfl rfl
    · exact proceeds rfl rfl
  | setTimeout scheduler duration callback next =>
    exact proceeds (script_startTimer m scheduler duration (.run callback)) rfl
  | attach counter source body next =>
    exact proceeds (script_startContinuation m counter source body) rfl

theorem answer?_script (m : Machine σ) (script : Progress σ) (alarm : Alarm) :
    { m with script := script }.answer? alarm = m.answer? alarm := by cases alarm <;> rfl

/-- A script that is looked at goes on if what it waits for has come. -/
theorem stride_resume {m next : Machine σ} {alarm : Alarm} {after : Answer → Script σ}
    (pauses : m.Pauses alarm after) (waits : next.script = .waiting alarm after)
    (idle : next.focus = .idle) : Stride m next.resume := by
  unfold resume
  rw [waits]
  simp only
  split
  next answer reply =>
    refine .answered alarm after answer pauses ?_ idle rfl
    rw [answer?_script]
    exact reply
  next => exact .paused alarm after pauses idle waits

theorem stride_wake {m next : Machine σ} (same : next.script = m.script) (idle : next.focus = .idle) :
    Stride m next.resume := by
  cases script : m.script with
  | waiting alarm after => exact stride_resume (.inl script) (same.trans script) idle
  | ready | busy | ended =>
    have still : next.resume = next := by
      unfold resume
      rw [same, script]
    rw [still]
    exact .aside (.of_task same (by simp [idle]))

theorem stride_advance {m : Machine σ} {script : Script σ} (idle : m.focus = .idle)
    (ready : m.script = .ready script) : Stride m (m.advance script) := by
  cases script with
  | finish outcome => exact .ended outcome ready idle rfl
  | run body after => exact .began body after ready rfl
  | pause wait after =>
    have pauses : m.Pauses (m.arm (wait m.memory)) after := .inr ⟨wait, ready, rfl⟩
    change Stride m { m with script := .waiting (m.arm (wait m.memory)) after }.resume
    exact stride_resume pauses rfl idle

theorem stride_turn {m next : Machine σ} (idle : m.focus = .idle) (taken : m.turn? = some next) :
    Stride m next := by
  have elapsed {time : Nat} (same : m.elapse time = next) : Stride m next := by
    subst same
    exact stride_wake rfl idle
  unfold turn? at taken
  split at taken
  next id rest queue =>
    cases taken
    have aside := aside_poll { m with ready := rest } id
    exact .aside ⟨aside.script, aside.owner⟩
  next empty =>
    split at taken
    next =>
      split at taken
      · cases taken
        exact stride_wake rfl idle
      · obtain ⟨time, _, same⟩ := Option.map_eq_some_iff.mp taken
        exact elapsed same
    next =>
      obtain ⟨time, _, same⟩ := Option.map_eq_some_iff.mp taken
      exact elapsed same

theorem stride_step {m next : Machine σ} (taken : m.step? = some next) : Stride m next := by
  unfold step? at taken
  split at taken
  next body owner running =>
    cases taken
    exact stride_execute running
  next idle =>
    split at taken
    next script ready =>
      cases taken
      exact stride_advance idle ready
    next => cases taken
    next => exact stride_turn idle taken

theorem Turn.stride {m next : Machine σ} {new : List (Record σ)} (turn : Turn m new next) :
    Stride m next := by
  cases turn with
  | step taken => exact stride_step taken
  | note | reorder => exact .aside (.of_focus rfl rfl)
  | wake idle => exact stride_wake rfl idle

theorem Stride.scripted {m next : Machine σ} (stride : Stride m next) (scripted : Scripted m) :
    Scripted next := by
  intro body rest running
  have resting (idle : next.focus = .idle) : next.script = .busy := by
    cases idle.symm.trans running
  cases stride with
  | aside aside =>
    obtain ⟨program, before⟩ := aside.owner body rest running
    exact aside.script.trans (scripted program rest before)
  | began _ _ _ goes => exact goes
  | returned _ _ _ idle => exact resting idle
  | ended _ _ idle => exact resting idle
  | paused _ _ _ idle => exact resting idle
  | answered _ _ _ _ _ idle => exact resting idle

theorem Scripted.of_idle {m : Machine σ} (idle : m.focus = .idle) : Scripted m := by
  intro body after running
  cases idle.symm.trans running

theorem Traced.scripted {first last : Machine σ} {history : List (Record σ)}
    (run : Traced first history last) (scripted : Scripted first) : Scripted last := by
  induction run with
  | start => exact scripted
  | turn _ turn ih => exact turn.stride.scripted ih

/-- A script that has ended stays so, whatever its tasks still do. -/
theorem Traced.ended {first last : Machine σ} {history : List (Record σ)}
    (run : Traced first history last) (scripted : Scripted first) {outcome : Outcome}
    (ended : first.script = .ended outcome) : last.script = .ended outcome := by
  induction run with
  | start => exact ended
  | @turn history m new next run turn ih =>
    cases turn.stride with
    | aside aside => exact aside.script.trans ih
    | returned result after running =>
      cases (run.scripted scripted _ _ running).symm.trans ih
    | ended result last => cases last.symm.trans ih
    | began body after first => cases first.symm.trans ih
    | paused alarm after pauses | answered alarm after answer pauses =>
      rcases pauses with waits | ⟨wait, asks, _⟩
      · cases waits.symm.trans ih
      · cases asks.symm.trans ih

end RuleHost.Loop.Machine
