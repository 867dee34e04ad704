import RuleHost.Proofs.HonestActs
import RuleHost.Proofs.ScriptProgress
import RuleHost.Proofs.TaskRecords

/-! A loop whose script is honest stays honest, whatever its tasks do and in whatever order. What a task runs
was given to the loop by a call, and a call of an honest program gives it nothing else. -/

namespace RuleHost.Loop

variable {σ : Type} [HostMemory σ]

def Job.Honest : Job σ → Prop
  | .timer _ _ _ (.run callback) => ∀ memory, callback.Honest memory
  | .timer _ _ _ (.resolve _ _) => True
  | .delay _ _ _ => True
  | .continuation _ _ _ body => ∀ value memory, (body value).Honest memory

def Script.Honest : Script σ → Prop
  | .finish _ => True
  | .run body next => (∀ memory, body.Honest memory) ∧ ∀ outcome, (next outcome).Honest
  | .pause _ next => ∀ answer, (next answer).Honest

def Progress.Honest : Progress σ → Prop
  | .ready script => script.Honest
  | .busy => True
  | .waiting _ next => ∀ answer, (next answer).Honest
  | .ended _ => True

def Owner.Honest : Owner σ → Prop
  | .script next => ∀ outcome, (next outcome).Honest
  | .callback => True
  | .continuation _ _ => True

def Focus.Honest (memory : σ) : Focus σ → Prop
  | .idle => True
  | .program body owner => body.Honest memory ∧ owner.Honest

/-- An honest program may be followed by others. -/
theorem Program.Honest.andThen {program : Program σ} {memory : σ} {after : Outcome → Program σ}
    (honest : program.Honest memory) (later : ∀ outcome memory, (after outcome).Honest memory) :
    (program.andThen after).Honest memory := by
  induction program generalizing memory with
  | finish outcome => exact later outcome memory
  | read next ih => exact ih memory honest
  | write changed next ih => exact ⟨honest.1, ih honest.2⟩
  | perform request next ih => exact fun reply => ih reply (honest reply)
  | define body next _ ih => exact ⟨honest.1, fun id => ih id (honest.2 id)⟩
  | call function arguments next ih => exact fun outcome memory => ih outcome (honest outcome memory)
  | setTimeout scheduler duration callback next _ ih => exact ⟨honest.1, fun id => ih id (honest.2 id)⟩
  | attach counter source body next _ ih => exact ⟨honest.1, fun cell => ih cell (honest.2 cell)⟩

namespace Machine

/-- A loop in which all that is to run is honest: the program that runs, the script, and what was given to the
loop by a call of the history. -/
structure Sound (history : List (Record σ)) (m : Machine σ) : Prop extends m.Honest where
  calls : ∀ record ∈ history, ∀ job, record.call.job? = some job → job.Honest
  script : m.script.Honest
  focus : m.focus.Honest m.memory

variable {m n : Machine σ} {history : List (Record σ)}

/-- The call that an honest program makes gives an honest job to the loop. -/
theorem honest_of_call {call : Call σ} {job : Job σ} (focus : m.focus.Honest m.memory)
    (made : m.call? = some call) (starts : call.job? = some job) : job.Honest := by
  unfold call? at made
  split at made
  next running =>
    rw [running] at focus
    obtain ⟨id, _, rfl⟩ := Option.map_eq_some_iff.mp made
    cases starts
    exact focus.1.1
  next =>
    obtain ⟨handle, _, rfl⟩ := Option.map_eq_some_iff.mp made
    cases starts
    trivial
  next =>
    obtain ⟨handle, _, rfl⟩ := Option.map_eq_some_iff.mp made
    cases starts
    trivial
  next =>
    cases made
    cases starts
  next running =>
    rw [running] at focus
    obtain ⟨handle, _, rfl⟩ := Option.map_eq_some_iff.mp made
    cases starts
    exact focus.1.1
  next =>
    cases made
    cases starts
  next => cases made

/-- Whatever moves the script on, what is left of it is honest. -/
theorem Stride.honest (stride : Stride m n) (script : m.script.Honest) (focus : m.focus.Honest m.memory) :
    n.script.Honest := by
  cases stride with
  | aside aside =>
    rw [aside.script]
    exact script
  | returned outcome after running _ goes =>
    rw [running] at focus
    rw [goes]
    exact focus.2 outcome
  | ended _ _ _ goes => rw [goes]; trivial
  | began _ _ _ goes => rw [goes]; trivial
  | paused alarm after pauses _ goes =>
    rw [goes]
    obtain waits | ⟨wait, asks, _⟩ := pauses
    · rw [waits] at script; exact script
    · rw [asks] at script; exact script
  | answered alarm after answer pauses _ _ goes =>
    rw [goes]
    obtain waits | ⟨wait, asks, _⟩ := pauses
    · rw [waits] at script; exact script answer
    · rw [asks] at script; exact script answer

def Poised (m : Machine σ) : Prop := m.Honest ∧ m.focus.Honest m.memory

theorem Poised.same (poised : Poised m) (memory : n.memory = m.memory) (functions : n.functions = m.functions)
    (focus : n.focus = m.focus) : Poised n := by
  refine ⟨⟨?_, ?_⟩, ?_⟩
  · rw [Machine.notifier, memory]
    exact poised.1.notifier
  · rw [functions]
    exact poised.1.functions
  · rw [focus, memory]
    exact poised.2

theorem Poised.settle (poised : Poised m) (cell : CellId) (state : CellState) :
    Poised (m.settle cell state) :=
  have steady := settle_steady m cell state
  poised.same steady.memory steady.functions steady.focus

theorem poised_conclude (honest : m.Honest) (outcome : Outcome) (owner : Owner σ) :
    Poised (m.conclude outcome owner) := by
  have idle : Poised { m with focus := .idle } := ⟨⟨honest.notifier, honest.functions⟩, trivial⟩
  cases owner with
  | script next => exact idle.same rfl rfl rfl
  | callback => exact idle
  | continuation source target => cases outcome <;> exact (idle.settle target _).same rfl rfl rfl

theorem poised_execute (honest : m.Honest) {body : Program σ} {owner : Owner σ}
    (sound : body.Honest m.memory) (proper : owner.Honest) : Poised (m.execute owner body) := by
  have served {next : Machine σ} {rest : Program σ} (steady : Steady m next)
      (sound : rest.Honest m.memory) : Poised (next.proceed rest owner) := by
    refine ⟨(honest.steady steady).proceed rest owner, ?_, proper⟩
    change rest.Honest next.memory
    rw [steady.memory]
    exact sound
  cases body with
  | finish outcome => exact poised_conclude honest outcome owner
  | read next => exact ⟨honest.proceed _ owner, sound, proper⟩
  | write memory next =>
    obtain ⟨⟨deeds, alters⟩, sound⟩ := sound
    exact ⟨(honest.write alters).proceed next owner, sound, proper⟩
  | perform request next => exact served (perform_steady m request) (sound _)
  | define body next => exact ⟨(honest.define sound.1).proceed _ owner, sound.2 _, proper⟩
  | call function arguments next =>
    simp only [execute]
    split
    next body found =>
      refine ⟨(honest.enter _).proceed _ owner, ?_, proper⟩
      exact (honest.functions function body found arguments m.memory).andThen sound
    next => exact ⟨honest.proceed _ owner, sound _ m.memory, proper⟩
  | setTimeout scheduler duration callback next =>
    exact served (startTimer_steady m scheduler duration (.run callback)) (sound.2 _)
  | attach counter source body next =>
    exact served (startContinuation_steady m counter source body) (sound.2 _)

theorem poised_resume (poised : Poised m) : Poised m.resume := by
  unfold resume
  split
  next =>
    split
    next => exact poised.same rfl rfl rfl
    next => exact poised
  next => exact poised

theorem poised_advance (poised : Poised m) {script : Script σ} (honest : script.Honest) :
    Poised (m.advance script) := by
  cases script with
  | finish outcome => exact poised.same rfl rfl rfl
  | run body next => exact ⟨⟨poised.1.notifier, poised.1.functions⟩, honest.1 m.memory, honest.2⟩
  | pause wait next =>
    have waiting : Poised { m with script := .waiting (m.arm (wait m.memory)) next } :=
      poised.same rfl rfl rfl
    exact poised_resume waiting

theorem poised_fire (poised : Poised m) (id : TaskId) (scheduler : SchedulerId) (timer : TimerId)
    (duration : Nat) {effect : TimerEffect σ} (job : Job.Honest (.timer scheduler timer duration effect)) :
    Poised (m.fire id scheduler timer effect) := by
  simp only [fire]
  split
  next => exact poised.same rfl rfl rfl
  next =>
    cases effect with
    | run callback => exact ⟨⟨poised.1.notifier, poised.1.functions⟩, job m.memory, trivial⟩
    | resolve target value =>
      apply Poised.settle
      exact poised.same rfl rfl rfl

theorem poised_discard (poised : Poised m) (id : TaskId) : Poised (m.discard id) := by
  obtain ⟨_, _, _, same⟩ := discard_frame m id
  rw [same]
  exact poised.same rfl rfl rfl

theorem poised_poll (poised : Poised m) (id : TaskId)
    (jobs : ∀ task, m.tasks[id]? = some task → task.job.Honest) : Poised (m.poll id) := by
  have phased (phase : Phase) : Poised (m.setPhase id phase) := poised.same rfl rfl rfl
  unfold poll
  split
  next => exact poised
  next task found =>
    have honest := jobs task found
    split
    next => exact poised
    next => exact poised_discard poised id
    next =>
      split
      next scheduler timer duration effect job =>
        rw [job] at honest
        dsimp only
        split
        next => exact poised_fire poised id scheduler timer duration honest
        next => exact phased _
      next =>
        dsimp only
        split
        next =>
          apply Poised.settle
          exact poised.same rfl rfl rfl
        next => exact phased _
      next counter source target body job =>
        rw [job] at honest
        split
        next value _ _ =>
          unfold startBody
          dsimp only
          cases counter <;>
            exact ⟨⟨poised.1.notifier, poised.1.functions⟩, honest value m.memory, trivial⟩
        next => exact phased _
        next => exact poised_discard poised id

theorem poised_step (sound : Sound history m) (filed : Filed history m) (taken : m.step? = some n) :
    Poised n := by
  have poised : Poised m := ⟨sound.toHonest, sound.focus⟩
  unfold step? at taken
  split at taken
  next body owner running =>
    cases taken
    have focus := sound.focus
    rw [running] at focus
    exact poised_execute sound.toHonest focus.1 focus.2
  next idle =>
    split at taken
    next script ready =>
      cases taken
      have honest := sound.script
      rw [ready] at honest
      exact poised_advance poised honest
    next => cases taken
    next =>
      have elapsed {time : Nat} : Poised (m.elapse time) := by
        apply poised_resume
        exact poised.same rfl rfl rfl
      unfold turn? at taken
      split at taken
      next id rest queue =>
        cases taken
        apply poised_poll
        · exact poised.same rfl rfl rfl
        intro task found
        obtain ⟨record, member, starts, _⟩ := filed.record found
        exact sound.calls record member task.job starts
      next empty =>
        split at taken
        next =>
          split at taken
          next => cases taken; exact poised_resume poised
          next =>
            obtain ⟨time, _, rfl⟩ := Option.map_eq_some_iff.mp taken
            exact elapsed
        next =>
          obtain ⟨time, _, rfl⟩ := Option.map_eq_some_iff.mp taken
          exact elapsed

theorem Turn.sound {new : List (Record σ)} (turn : Turn m new n) (filed : Filed history m)
    (sound : Sound history m) : Sound (new ++ history) n := by
  have poised : Poised n := by
    cases turn with
    | step taken => exact poised_step sound filed taken
    | note | reorder => exact Poised.same ⟨sound.toHonest, sound.focus⟩ rfl rfl rfl
    | wake => exact poised_resume ⟨sound.toHonest, sound.focus⟩
  refine ⟨poised.1, ?_, turn.stride.honest sound.script sound.focus, poised.2⟩
  intro record member job starts
  rcases List.mem_append.mp member with fresh | old
  · cases turn with
    | step taken =>
      rw [noted, Option.mem_toList] at fresh
      obtain ⟨call, made, rfl⟩ := Option.map_eq_some_iff.mp fresh
      exact honest_of_call sound.focus made starts
    | note | reorder | wake => cases fresh
  · exact sound.calls record old job starts

/-- In every run of an honest script the loop is honest, whatever the order of turns. -/
theorem Traced.sound {memory : σ} {script : Script σ} {attached : Bool}
    (run : Traced (Machine.start memory script attached) history m)
    (reachable : (HostMemory.notifier memory).Reachable) (honest : script.Honest) : Sound history m := by
  induction run with
  | start =>
    refine ⟨⟨reachable, ?_⟩, nofun, honest, trivial⟩
    intro id body found
    cases found
  | turn run turn ih => exact turn.sound run.filed ih

end Machine
end RuleHost.Loop
