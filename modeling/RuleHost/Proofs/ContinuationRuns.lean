import RuleHost.Proofs.LoopTeardown
import RuleHost.Proofs.TaskFates

/-! The programs of continuations. Each begins with the value of its source and runs without a break until
it answers; nothing but its own steps comes between, apart from what the log is told and from the order in
which other tasks are ready. -/

namespace RuleHost.Loop.Machine

variable {σ : Type}

/-- A program goes on under one owner, with the calls that it makes. -/
inductive Working (owner : Owner σ) (first : Machine σ) (body : Program σ) :
    List (Record σ) → Machine σ → Program σ → Prop where
  | start (running : first.focus = .program body owner) : Working owner first body [] first body
  | turn {history new : List (Record σ)} {m next : Machine σ} {rest left : Program σ}
      (working : Working owner first body history m rest) (turn : Turn m new next)
      (running : next.focus = .program left owner) :
      Working owner first body (new ++ history) next left

theorem Working.running {owner : Owner σ} {first m : Machine σ} {body rest : Program σ}
    {history : List (Record σ)} (working : Working owner first body history m rest) :
    m.focus = .program rest owner := by
  cases working with
  | start running => exact running
  | turn _ _ running => exact running

/-- In the course of a run, the program of a continuation has run from its beginning to its end, and this
was its outcome. -/
def Answers (first : Machine σ) (history : List (Record σ)) (m : Machine σ) (source target : CellId)
    (program : Program σ) (outcome : Outcome) : Prop :=
  ∃ (earlier during later : List (Record σ)) (begun last : Machine σ), Traced first earlier begun ∧
    Working (.continuation source target) begun program during last (.finish outcome) ∧
      Traced last later m ∧ history = later ++ (during ++ earlier)

def Given (m : Machine σ) (source target : CellId) (program : Program σ) : Prop :=
  ∃ (id : TaskId) (task : Task σ) (counter : Option SchedulerId) (body : Value → Program σ)
    (value : Value) (time : Nat), m.tasks[id]? = some task ∧
      task.job = .continuation counter source target body ∧
        m.toWorld.state? source = some (.resolved value time) ∧ program = body value

theorem Given.persists {m n : Machine σ} {source target : CellId} {program : Program σ}
    (given : Given m source target program) (persists : Persists m n) :
    Given n source target program := by
  obtain ⟨id, task, counter, body, value, time, found, job, resolved, same⟩ := given
  obtain ⟨later, stored, _, work, _⟩ := persists.tasks id task found
  exact ⟨id, later, counter, body, value, time, stored, work.trans job,
    persists.resolved resolved, same⟩

theorem focus_conclude (m : Machine σ) (outcome : Outcome) (owner : Owner σ) :
    (m.conclude outcome owner).focus = .idle := by
  cases owner with
  | script next => rfl
  | callback => rfl
  | continuation source target =>
    cases outcome with
    | ok value => exact focus_settle { m with focus := .idle } target _
    | error failure => exact focus_settle { m with focus := .idle } target _

theorem focus_execute (m : Machine σ) (owner : Owner σ) (body : Program σ) :
    (∃ rest, (m.execute owner body).focus = .program rest owner) ∨
      (m.execute owner body).focus = .idle := by
  cases body with
  | finish outcome => exact .inr (focus_conclude m outcome owner)
  | read | write | perform | define | setTimeout | attach => exact .inl ⟨_, rfl⟩
  | call function arguments next =>
    simp only [execute]
    split
    · exact .inl ⟨_, rfl⟩
    · exact .inl ⟨_, rfl⟩

theorem focus_discard (m : Machine σ) (id : TaskId) : (m.discard id).focus = m.focus := by
  obtain ⟨_, _, _, same⟩ := discard_frame m id
  rw [same]

theorem focus_fire {m : Machine σ} {id : TaskId} {scheduler : SchedulerId} {timer : TimerId}
    {effect : TimerEffect σ} (idle : m.focus = .idle) (rest : Program σ) (source target : CellId) :
    (m.fire id scheduler timer effect).focus ≠ .program rest (.continuation source target) := by
  have ended : (m.setPhase id .ended).focus = .idle := idle
  simp only [fire]
  split
  · rw [ended]
    simp
  next table fired =>
    cases effect with
    | run callback => simp [proceed]
    | resolve cell value =>
      simp only [resolve, focus_settle]
      change (m.setPhase id .ended).focus ≠ _
      rw [ended]
      simp

/-- The program of a continuation that begins is the one that its task was given. -/
theorem focus_poll {m : Machine σ} {id : TaskId} (idle : m.focus = .idle) {program : Program σ}
    {source target : CellId}
    (running : (m.poll id).focus = .program program (.continuation source target)) :
    Given m source target program := by
  have silent {n : Machine σ} (same : n.focus = m.focus) :
      n.focus ≠ .program program (.continuation source target) := by
    rw [same, idle]
    simp
  unfold poll at running
  cases found : m.tasks[id]? with
  | none =>
    rw [found] at running
    exact absurd running (silent rfl)
  | some task =>
    simp only [found] at running
    split at running
    next => exact absurd running (silent rfl)
    next => exact absurd running (silent (focus_discard m id))
    next =>
      split at running
      next scheduler timer duration effect job =>
        split at running
        · exact absurd running (focus_fire idle program source target)
        · exact absurd running (silent rfl)
      next duration cell value job =>
        split at running
        · exact absurd running (silent (focus_settle _ _ _))
        · exact absurd running (silent rfl)
      next counter awaited owed body job =>
        split at running
        next value time resolved =>
          cases counter with
          | none =>
            cases running
            exact ⟨id, task, none, body, value, time, found, job, resolved, rfl⟩
          | some scheduler =>
            cases running
            exact ⟨id, task, some scheduler, body, value, time, found, job, resolved, rfl⟩
        next => exact absurd running (silent rfl)
        next => exact absurd running (silent (focus_discard m id))

theorem focus_resume (m : Machine σ) : m.resume.focus = m.focus := by
  unfold resume
  split
  · split <;> rfl
  · rfl

/-- A continuation that runs ran already, or has just begun. -/
theorem Turn.continuation {m next : Machine σ} {new : List (Record σ)} (turn : Turn m new next)
    {rest : Program σ} {source target : CellId}
    (running : next.focus = .program rest (.continuation source target)) :
    (∃ body, m.focus = .program body (.continuation source target)) ∨
      m.focus = .idle ∧ Given m source target rest := by
  cases turn with
  | note | reorder => exact .inl ⟨rest, running⟩
  | wake idle => exact .inl ⟨rest, (focus_resume m).symm.trans running⟩
  | step taken =>
    unfold step? at taken
    split at taken
    next body owner before =>
      cases taken
      rcases focus_execute m owner body with ⟨left, after⟩ | idle
      · cases after.symm.trans running
        exact .inl ⟨body, before⟩
      · cases idle.symm.trans running
    next idle =>
      split at taken
      next script ready =>
        cases taken
        cases script with
        | finish outcome => cases idle.symm.trans running
        | run body next => cases running
        | pause wait next =>
          have paused : (m.advance (.pause wait next)).focus = m.focus := focus_resume _
          cases idle.symm.trans (paused.symm.trans running)
      next => cases taken
      next =>
        unfold turn? at taken
        split at taken
        next id others queue =>
          cases taken
          exact .inr ⟨idle, focus_poll (m := { m with ready := others }) idle running⟩
        next empty =>
          have elapsed {time : Nat} (same : m.elapse time = next) : next.focus = .idle := by
            subst same
            exact (focus_resume _).trans idle
          split at taken
          next alarm after script =>
            split at taken
            · cases taken
              cases idle.symm.trans ((focus_resume _).symm.trans running)
            · obtain ⟨time, least, same⟩ := Option.map_eq_some_iff.mp taken
              cases (elapsed same).symm.trans running
          next =>
            obtain ⟨time, least, same⟩ := Option.map_eq_some_iff.mp taken
            cases (elapsed same).symm.trans running

theorem Working.finished {owner : Owner σ} {first m : Machine σ} {outcome : Outcome} {rest : Program σ}
    {history : List (Record σ)} (working : Working owner first (.finish outcome) history m rest) :
    rest = .finish outcome := by
  induction working with
  | start => rfl
  | turn working turn running ih =>
    subst ih
    have before := working.running
    cases turn with
    | note | reorder => cases before.symm.trans running; rfl
    | wake idle => cases idle.symm.trans before
    | step taken =>
      unfold step? at taken
      rw [before] at taken
      cases taken
      cases (focus_conclude _ outcome owner).symm.trans running

/-- A program that needs nothing of the loop has the outcome it is written with. -/
theorem Answers.finished {first m : Machine σ} {history : List (Record σ)} {source target : CellId}
    {result outcome : Outcome}
    (answers : Answers first history m source target (.finish result) outcome) : outcome = result := by
  obtain ⟨_, _, _, _, _, _, working, _⟩ := answers
  cases working.finished
  rfl

/-- Every continuation that runs has begun with the value of its source, and every answer is that of one
which has run to its end. -/
structure Faithful (first : Machine σ) (history : List (Record σ)) (m : Machine σ) : Prop where
  running : ∀ rest source target, m.focus = .program rest (.continuation source target) →
    ∃ (program : Program σ) (earlier during : List (Record σ)) (begun : Machine σ),
      Given m source target program ∧ Traced first earlier begun ∧
        Working (.continuation source target) begun program during m rest ∧ history = during ++ earlier
  answered : ∀ time target outcome, ⟨time, .answer target outcome⟩ ∈ history →
    ∃ source program, Given m source target program ∧
      Answers first history m source target program outcome

theorem call?_answer {m : Machine σ} {target : CellId} {outcome : Outcome}
    (call : m.call? = some (.answer target outcome)) :
    ∃ source, m.focus = .program (.finish outcome) (.continuation source target) := by
  have other {α : Type} {reply : Option α} {made : α → Call σ} (mapped : reply.map made =
      some (.answer target outcome)) : ∃ value, made value = .answer target outcome := by
    obtain ⟨value, _, same⟩ := Option.map_eq_some_iff.mp mapped
    exact ⟨value, same⟩
  unfold call? at call
  split at call
  next => obtain ⟨_, same⟩ := other call; cases same
  next => obtain ⟨_, same⟩ := other call; cases same
  next => obtain ⟨_, same⟩ := other call; cases same
  next => cases call
  next => obtain ⟨_, same⟩ := other call; cases same
  next focus => cases call; exact ⟨_, focus⟩
  next => cases call

theorem Turn.answer {m next : Machine σ} {new : List (Record σ)} (turn : Turn m new next) {time : Nat}
    {target : CellId} {outcome : Outcome} (member : ⟨time, .answer target outcome⟩ ∈ new) :
    ∃ source, m.focus = .program (.finish outcome) (.continuation source target) := by
  cases turn with
  | note | reorder | wake => cases member
  | step taken =>
    obtain ⟨call, made, same⟩ := Option.map_eq_some_iff.mp (Option.mem_toList.mp member)
    cases same
    exact call?_answer made

theorem Traced.faithful {first m : Machine σ} {history : List (Record σ)} (idle : first.focus = .idle)
    (run : Traced first history m) : Faithful first history m := by
  induction run with
  | start =>
    refine ⟨fun rest source target running => ?_, fun _ _ _ member => ?_⟩
    · cases idle.symm.trans running
    · cases member
  | @turn history m new next run turn ih =>
    have persists := (Traced.start.turn turn).persists
    refine ⟨?_, ?_⟩
    · intro rest source target running
      rcases turn.continuation running with ⟨body, before⟩ | ⟨_, given⟩
      · obtain ⟨program, earlier, during, begun, given, origin, working, same⟩ :=
          ih.running body source target before
        refine ⟨program, earlier, new ++ during, begun, given.persists persists, origin,
          working.turn turn running, ?_⟩
        rw [same, List.append_assoc]
      · exact ⟨rest, new ++ history, [], next, given.persists persists, run.turn turn,
          .start running, rfl⟩
    · intro time target outcome member
      rcases List.mem_append.mp member with fresh | old
      · obtain ⟨source, ended⟩ := turn.answer fresh
        obtain ⟨program, earlier, during, begun, given, origin, working, same⟩ :=
          ih.running _ source target ended
        refine ⟨source, program, given.persists persists, earlier, during, new ++ [], begun, m, origin,
          working, .turn .start turn, ?_⟩
        rw [same, List.append_nil]
      · obtain ⟨source, program, given, earlier, during, later, begun, last, origin, working, onward,
          same⟩ := ih.answered time target outcome old
        refine ⟨source, program, given.persists persists, earlier, during, new ++ later, begun, last,
          origin, working, onward.turn turn, ?_⟩
        rw [same, List.append_assoc]

end RuleHost.Loop.Machine
