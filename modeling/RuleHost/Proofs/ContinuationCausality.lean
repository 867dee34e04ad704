import RuleHost.Proofs.ContinuationOrder
import RuleHost.Proofs.ContinuationRuns

/-! What holds of a continuation through a whole life, wherever it is attached and whatever to. Its program
is applied at most once, and to the value of its source; only its answer resolves its handle; and whoever
hangs on it begins later. -/

namespace RuleHost.Loop

variable {σ : Type}

theorem Call.attach_of_job {call : Call σ} {counter : Option SchedulerId} {source target : CellId}
    {body : Value → Program σ} (starts : call.job? = some (.continuation counter source target body)) :
    call = .attach counter source body target := by
  cases call <;> cases starts
  rfl

namespace Machine

/-- A turn in which the program of a continuation begins. -/
structure Beginning (m next : Machine σ) (source target : CellId) (body : Value → Program σ)
    (value : Value) : Prop where
  job : ∃ (id : TaskId) (task : Task σ) (counter : Option SchedulerId), m.tasks[id]? = some task ∧
    task.job = .continuation counter source target body
  resolved : ∃ settled, m.toWorld.state? source = some (.resolved value settled)
  focus : next.focus = .program (body value) (.continuation source target)
  entries : next.entries = .continuation source target value m.now :: m.entries
  now : next.now = m.now

section Beginnings

variable {m next : Machine σ} {new : List (Record σ)}

/-- What a turn does to the callbacks of continuations, up to what programs remember. -/
theorem Turn.entering (turn : Turn m new next) : ∃ call middle, Entering m call middle ∧
    next.now = middle.now ∧ next.entries = middle.entries ∧ next.debt? = middle.debt? := by
  cases turn with
  | step taken =>
    obtain ⟨middle, move, alike⟩ := step_moves m next taken
    exact ⟨_, middle, move.entering, alike.now, alike.entries, alike.debt⟩
  | note | reorder => exact ⟨none, m, .none rfl rfl, rfl, rfl, rfl⟩
  | wake idle =>
    have alike := alike_resume m
    exact ⟨none, m, .none rfl rfl, alike.now, alike.entries, alike.debt⟩

theorem Turn.beginning (turn : Turn m new next) (owing : Owing m) (idle : m.focus = .idle)
    {program : Program σ} {source target : CellId}
    (running : next.focus = .program program (.continuation source target)) :
    ∃ body value, program = body value ∧ Beginning m next source target body value := by
  rcases turn.continuation running with ⟨_, before⟩ | ⟨_, given⟩
  · cases idle.symm.trans before
  · obtain ⟨id, task, counter, body, value, time, found, job, resolved, rfl⟩ := given
    have owed : next.debt? = some target := by simp only [debt?, running]
    obtain ⟨_, middle, entering, now, entries, debt⟩ := turn.entering
    rw [debt] at owed
    cases entering with
    | none _ same | other _ _ _ same =>
      exact absurd (same.symm.trans owed) (not_owed idle target)
    | returns _ _ _ _ _ none => cases none.symm.trans owed
    | begins _ _ second _ _ other _ _ _ awake work value entered _ same moment =>
      cases same.symm.trans owed
      obtain rfl := owing.unique found awake.found (by rw [job, Job.target?]) (by rw [work, Job.target?])
      cases job.symm.trans work
      cases resolved.symm.trans value
      exact ⟨body, _, rfl, ⟨id, task, counter, found, job⟩, ⟨time, resolved⟩, running,
        entries.trans entered, now.trans moment⟩

theorem focus_of_debt {target : CellId} (owed : m.debt? = some target) :
    ∃ rest source, m.focus = .program rest (.continuation source target) := by
  unfold debt? at owed
  split at owed
  next rest source cell focus => cases owed; exact ⟨rest, source, focus⟩
  next => cases owed

/-- Where a callback of a continuation is entered, its program begins. -/
theorem Turn.beginning_of_entered (turn : Turn m new next) (owing : Owing m) {target : CellId}
    (entered : invocations target m.entries < invocations target next.entries) :
    ∃ source body value, Beginning m next source target body value := by
  obtain ⟨_, middle, entering, now, entries, debt⟩ := turn.entering
  rw [entries] at entered
  cases entering with
  | none same | returns _ _ _ _ same =>
    rw [same] at entered
    exact absurd entered (Nat.lt_irrefl _)
  | other entry same apart =>
    rw [same, invocations_cons, apart target] at entered
    exact absurd entered (Nat.lt_irrefl _)
  | begins id rest task counter source owed body value time awake job resolved same tasks owes =>
    rw [same, invocations_cons] at entered
    split at entered
    next here =>
      obtain rfl : owed = target := by simpa [Entry.continues] using here
      obtain ⟨program, awaited, running⟩ := focus_of_debt (debt.trans owes)
      obtain ⟨body, value, _, beginning⟩ := turn.beginning owing awake.idle running
      exact ⟨awaited, body, value, beginning⟩
    next => exact absurd entered (Nat.lt_irrefl _)

end Beginnings

/-- The program of a continuation has begun when its callback was entered, and has run without a break to
its end. -/
def Completed (history : List (Record σ)) (source target : CellId) (program : Program σ) (value : Value)
    (time : Nat) (outcome : Outcome) : Prop :=
  ∃ (earlier during : List (Record σ)) (begun last : Machine σ), Life earlier begun ∧
    begun.entries.head? = some (.continuation source target value begun.now) ∧
      Working (.continuation source target) begun program during last (.finish outcome) ∧
        last.now = time ∧ ⟨time, .answer target outcome⟩ :: (during ++ earlier) <:+ history

theorem Completed.suffix {history after : List (Record σ)} {source target : CellId}
    {program : Program σ} {value : Value} {time : Nat} {outcome : Outcome}
    (completed : Completed history source target program value time outcome)
    (suffix : history <:+ after) : Completed after source target program value time outcome := by
  obtain ⟨earlier, during, begun, last, life, entered, working, now, here⟩ := completed
  exact ⟨earlier, during, begun, last, life, entered, working, now, here.trans suffix⟩

/-- A program that needs nothing of the loop has the outcome it is written with. -/
theorem Completed.finished {history : List (Record σ)} {source target : CellId} {value : Value}
    {time : Nat} {result outcome : Outcome}
    (completed : Completed history source target (.finish result) value time outcome) :
    outcome = result := by
  obtain ⟨_, _, _, _, _, _, working, _⟩ := completed
  cases working.finished
  rfl

/-- Whichever continuation runs, or has answered, was attached to a source that is resolved, and its program
is the one it was attached with, applied to the value of the source. -/
structure Served (history : List (Record σ)) (m : Machine σ) : Prop where
  running : ∀ rest source target, m.focus = .program rest (.continuation source target) →
    ∃ time counter body value settled, ⟨time, .attach counter source body target⟩ ∈ history ∧
      m.toWorld.state? source = some (.resolved value settled) ∧
        ∃ (earlier during : List (Record σ)) (begun : Machine σ), Life earlier begun ∧
          begun.entries.head? = some (.continuation source target value begun.now) ∧
            Working (.continuation source target) begun (body value) during m rest ∧
              history = during ++ earlier
  answered : ∀ time target outcome, ⟨time, .answer target outcome⟩ ∈ history →
    ∃ moment counter source body value settled, ⟨moment, .attach counter source body target⟩ ∈ history ∧
      m.toWorld.state? source = some (.resolved value settled) ∧
        Completed history source target (body value) value time outcome

section Answers

variable {history new : List (Record σ)} {m next : Machine σ}

theorem Served.answered_later (served : Served history m) (persists : Persists m next)
    {after : List (Record σ)} (suffix : history <:+ after) {time : Nat} {target : CellId}
    {outcome : Outcome} (member : ⟨time, .answer target outcome⟩ ∈ history) :
    ∃ moment counter source body value settled,
      ⟨moment, .attach counter source body target⟩ ∈ after ∧
        next.toWorld.state? source = some (.resolved value settled) ∧
          Completed after source target (body value) value time outcome := by
  obtain ⟨moment, counter, source, body, value, settled, made, resolved, completed⟩ :=
    served.answered time target outcome member
  exact ⟨moment, counter, source, body, value, settled, suffix.mem made,
    persists.resolved resolved, completed.suffix suffix⟩

theorem Turn.answered (turn : Turn m new next) {time : Nat} {target : CellId} {outcome : Outcome}
    (member : ⟨time, .answer target outcome⟩ ∈ new) :
    time = m.now ∧ new = [⟨m.now, .answer target outcome⟩] := by
  cases turn with
  | note | reorder | wake => cases member
  | step taken =>
    obtain ⟨made, now⟩ := mem_noted member
    refine ⟨now, ?_⟩
    rw [made]
    rfl

theorem Served.turn (served : Served history m) (life : Life history m) (turn : Turn m new next) :
    Served (new ++ history) next := by
  have persists := (Traced.start.turn turn).persists
  refine ⟨?_, ?_⟩
  · intro rest source target running
    rcases turn.continuation running with ⟨program, before⟩ | ⟨idle, _⟩
    · obtain ⟨time, counter, body, value, settled, made, resolved, earlier, during, begun, origin,
        entered, working, same⟩ := served.running program source target before
      refine ⟨time, counter, body, value, settled, List.mem_append_right new made,
        persists.resolved resolved, earlier, new ++ during, begun, origin, entered,
        working.turn turn running, ?_⟩
      rw [same, List.append_assoc]
    · obtain ⟨body, value, rfl, beginning⟩ := turn.beginning life.owing idle running
      obtain ⟨id, task, counter, found, job⟩ := beginning.job
      obtain ⟨settled, resolved⟩ := beginning.resolved
      obtain ⟨⟨time, call⟩, made, starts, _⟩ := life.filed.record found
      obtain rfl := Call.attach_of_job (starts.trans (congrArg some job))
      refine ⟨time, counter, body, value, settled, List.mem_append_right new made,
        persists.resolved resolved, new ++ history, [], next, life.turn turn, ?_, .start running, rfl⟩
      rw [beginning.entries, beginning.now]
      rfl
  · intro time target outcome member
    rcases List.mem_append.mp member with fresh | old
    · obtain ⟨rfl, rfl⟩ := turn.answered fresh
      obtain ⟨source, ended⟩ := turn.answer fresh
      obtain ⟨moment, counter, body, value, settled, made, resolved, earlier, during, begun, origin,
        entered, working, rfl⟩ := served.running _ source target ended
      exact ⟨moment, counter, source, body, value, settled, List.mem_cons_of_mem _ made,
        persists.resolved resolved, earlier, during, begun, m, origin, entered, working, rfl,
        List.suffix_rfl⟩
    · exact served.answered_later persists (List.suffix_append new history) old

theorem Served.idle (served : Served history m) (persists : Persists m next) (idle : next.focus = .idle) :
    Served history next := by
  refine ⟨fun rest source target running => ?_, fun time target outcome member => ?_⟩
  · cases idle.symm.trans running
  · exact served.answered_later persists List.suffix_rfl member

theorem Life.served (life : Life history m) : Served history m := by
  induction life with
  | start =>
    refine ⟨fun rest source target running => ?_, fun _ _ _ member => ?_⟩
    · cases running
    · cases member
  | turn life turn ih => exact ih.turn life turn
  | leave life idle ih =>
    exact ih.idle (persists_tearDown life.owing idle) ((focus_tearDown _).trans idle)
  | enter life idle script attached ih => exact ih.idle (alike_enter _ script attached).persists idle

end Answers

/-- What holds of a continuation at any time of a life. -/
structure Causality (history : List (Record σ)) (m : Machine σ) (source handle : CellId)
    (body : Value → Program σ) : Prop where
  once : invocations handle m.entries ≤ 1
  entered : ∀ awaited value time, .continuation awaited handle value time ∈ m.entries →
    awaited = source ∧ ∃ settled ≤ time, m.toWorld.state? source = some (.resolved value settled)
  begins : ∀ new next, Turn m new next →
    invocations handle m.entries < invocations handle next.entries →
      ∃ value settled, m.toWorld.state? source = some (.resolved value settled) ∧
        next.entries = .continuation source handle value m.now :: m.entries ∧
          next.focus = .program (body value) (.continuation source handle)
  returned : invocations handle m.entries = 1 →
    m.debt? = some handle ∨ ∃ time outcome, ⟨time, .answer handle outcome⟩ ∈ history
  answered : ∀ time outcome, ⟨time, .answer handle outcome⟩ ∈ history →
    invocations handle m.entries = 1 ∧
      m.toWorld.state? handle = some (.ofOutcome time outcome) ∧
        ∃ value settled, m.toWorld.state? source = some (.resolved value settled) ∧
          Completed history source handle (body value) value time outcome
  resolved : ∀ result time, m.toWorld.state? handle = some (.resolved result time) ↔
    ⟨time, .answer handle (.ok result)⟩ ∈ history
  mapped : ∀ f : Value → Value, (∀ value, body value = .finish (.ok (f value))) → ∀ result time,
    m.toWorld.state? handle = some (.resolved result time) →
      ∃ value settled, m.toWorld.state? source = some (.resolved value settled) ∧ result = f value
  lost : m.toWorld.state? source = some .abandoned → ∀ later n, Onward m later n →
    invocations handle n.entries = 0 ∧
      ∀ result time, n.toWorld.state? handle ≠ some (.resolved result time)
  chained : ∀ time counter second program last, ⟨time, .attach counter second program last⟩ ∈ history →
    Hangs history handle second → ∀ value entered older,
      .continuation second last value entered :: older <:+ m.entries → invocations handle older = 1

section Continuations

variable {history : List (Record σ)} {m : Machine σ}

/-- A handle tells what its continuation was attached to, and with which program. -/
theorem Filed.attach_unique (filed : Filed history m) (owing : Owing m) {time : Nat}
    {counter : Option SchedulerId} {source handle : CellId} {body : Value → Program σ}
    (made : ⟨time, .attach counter source body handle⟩ ∈ history) {id : TaskId} {task : Task σ}
    {other : Option SchedulerId} {awaited : CellId} {program : Value → Program σ}
    (found : m.tasks[id]? = some task) (job : task.job = .continuation other awaited handle program) :
    awaited = source ∧ program = body := by
  obtain ⟨_, second, stored, work, owes⟩ := filed.continuation made
  obtain rfl := owing.unique found stored (by rw [job, Job.target?]) owes
  cases job.symm.trans work
  exact ⟨rfl, rfl⟩

/-- The chain is followed from its end: each link was begun among the callbacks that are older still. -/
theorem Causal.chain (causal : Causal history m) (filed : Filed history m) (owing : Owing m) {moment : Nat}
    {other : Option SchedulerId} {first handle : CellId} {body : Value → Program σ}
    (root : ⟨moment, .attach other first body handle⟩ ∈ history) {second : CellId}
    (hangs : Hangs history handle second) {last : CellId} {value : Value} {entered : Nat}
    {older : List Entry} (suffix : .continuation second last value entered :: older <:+ m.entries) :
    0 < invocations handle older := by
  induction hangs generalizing last value entered older with
  | root => exact causal.chained _ _ _ _ _ root _ _ _ _ suffix
  | @attached time counter source target program hangs made ih =>
    have begun := causal.chained _ _ _ _ _ made _ _ _ _ suffix
    obtain ⟨awaited, result, moment, member⟩ := invocations_pos.mp begun
    obtain ⟨newer, oldest, rfl⟩ := List.append_of_mem member
    have here : .continuation awaited target result moment :: oldest <:+ m.entries :=
      (List.suffix_append newer _).trans ((List.suffix_cons _ _).trans suffix)
    obtain ⟨id, task, _, _, _, found, _, job, _⟩ := causal.begun _ _ _ _ (here.mem List.mem_cons_self)
    obtain ⟨rfl, _⟩ := filed.attach_unique owing made found job
    have before := ih here
    have mono : invocations handle oldest ≤ invocations handle
        (newer ++ .continuation awaited target result moment :: oldest) :=
      ((List.suffix_cons _ _).trans (List.suffix_append newer _)).sublist.countP_le
    exact Nat.lt_of_lt_of_le before mono

/-- A continuation begins, and is resolved, only if its source is. -/
theorem Life.source_resolved (life : Life history m) {time : Nat} {counter : Option SchedulerId}
    {source handle : CellId} {body : Value → Program σ}
    (made : ⟨time, .attach counter source body handle⟩ ∈ history)
    (reason : 0 < invocations handle m.entries ∨
      ∃ value settled, m.toWorld.state? handle = some (.resolved value settled)) :
    ∃ value settled, m.toWorld.state? source = some (.resolved value settled) := by
  have begun : 0 < invocations handle m.entries := by
    rcases reason with entered | ⟨value, settled, stored⟩
    · exact entered
    · have answered := life.causal.resolved _ _ _ _ _ made value settled stored
      exact (life.causal.answered _ _ _ answered).1
  obtain ⟨awaited, value, _, member⟩ := invocations_pos.mp begun
  obtain ⟨_, _, _, _, settled, found, _, job, resolved, _⟩ := life.causal.begun _ _ _ _ member
  obtain ⟨rfl, _⟩ := life.filed.attach_unique life.owing made found job
  exact ⟨value, settled, resolved⟩

/-- What a continuation needs, it has when it begins; it begins once; and its handle tells what it has
answered. This holds of every continuation that is ever attached, in whatever order things happen. -/
theorem continuations_causal (life : Life history m) {time : Nat} {counter : Option SchedulerId}
    {source handle : CellId} {body : Value → Program σ}
    (made : ⟨time, .attach counter source body handle⟩ ∈ history) :
    Causality history m source handle body := by
  have causal := life.causal
  have owing := life.owing
  have filed := life.filed
  have once := causal.once handle
  have answered (time : Nat) (outcome : Outcome) (member : ⟨time, .answer handle outcome⟩ ∈ history) :
      ∃ value settled, m.toWorld.state? source = some (.resolved value settled) ∧
        Completed history source handle (body value) value time outcome := by
    obtain ⟨moment, _, awaited, program, value, settled, attached, resolved, completed⟩ :=
      life.served.answered time handle outcome member
    obtain ⟨_, task, found, job, _⟩ := filed.continuation attached
    obtain ⟨rfl, rfl⟩ := filed.attach_unique owing made found job
    exact ⟨value, settled, resolved, completed⟩
  have resolved (result : Value) (time : Nat) : m.toWorld.state? handle = some (.resolved result time) ↔
      ⟨time, .answer handle (.ok result)⟩ ∈ history :=
    ⟨causal.resolved _ _ _ _ _ made result time, fun member => (causal.answered _ _ _ member).2⟩
  refine ⟨once, ?_, ?_, ?_, ?_, resolved, ?_, ?_, ?_⟩
  · intro awaited value moment member
    obtain ⟨id, task, _, _, settled, found, _, job, stored, past⟩ := causal.begun _ _ _ _ member
    obtain ⟨rfl, _⟩ := filed.attach_unique owing made found job
    exact ⟨rfl, settled, past, stored⟩
  · intro new next turn entered
    obtain ⟨awaited, program, value, beginning⟩ := turn.beginning_of_entered owing entered
    obtain ⟨id, task, _, found, job⟩ := beginning.job
    obtain ⟨rfl, rfl⟩ := filed.attach_unique owing made found job
    obtain ⟨settled, stored⟩ := beginning.resolved
    exact ⟨value, settled, stored, beginning.entries, beginning.focus⟩
  · intro entered
    exact causal.returned handle (by omega)
  · intro moment outcome member
    obtain ⟨entered, left⟩ := causal.answered moment handle outcome member
    exact ⟨by omega, left, answered moment outcome member⟩
  · intro f pure result moment stored
    obtain ⟨value, settled, awaited, completed⟩ := answered _ _ ((resolved result moment).mp stored)
    rw [pure value] at completed
    cases completed.finished
    exact ⟨value, settled, awaited, rfl⟩
  · intro abandoned later n onward
    have lost := (life.persists onward).abandoned abandoned
    have source := (life.onward onward).source_resolved (List.mem_append_right later made)
    refine ⟨Nat.eq_zero_of_not_pos fun begun => ?_, fun result moment stored => ?_⟩
    · obtain ⟨_, _, resolved⟩ := source (.inl begun)
      cases lost.symm.trans resolved
    · obtain ⟨_, _, resolved⟩ := source (.inr ⟨result, moment, stored⟩)
      cases lost.symm.trans resolved
  · intro moment other second program last attached hangs value entered older suffix
    have before := causal.chain filed owing made hangs suffix
    have mono : invocations handle older ≤ invocations handle m.entries :=
      ((List.suffix_cons _ _).trans suffix).sublist.countP_le
    omega

end Continuations

def graft (value : Value) : Program Unit :=
  .attach none 0 (fun value => .finish (.ok value)) fun _ => .finish (.ok value)

/-- A chain of two continuations on a delay, the first of which attaches a third one to the delay when it is
over, and one more continuation on a delay that is cleared. -/
def grafted : Script Unit :=
  let pass (value : Value) : Program Unit := .finish (.ok value)
  .run (.perform (.delay (some 0) 10 .null) fun _ => .perform (.delay (some 0) 20 .undefined) fun _ =>
    .attach (some 0) 0 graft fun _ => .attach none 2 pass fun _ => .attach none 1 pass fun _ =>
      .perform (.clearTimeout 0 ⟨2⟩) fun _ => .finish (.ok .undefined)) .finish

private def grown : Machine Unit := (settleAll 60 (start () grafted)).getD (start () grafted)

theorem continuations_causal_grafted : ∃ (history : List (Record Unit)) (m : Machine Unit) (time : Nat),
    Life history m ∧ ⟨time, .attach (some 0) 0 graft 2⟩ ∈ history ∧
    m.entries = [.continuation 2 3 .null 10, .continuation 0 5 .null 10, .continuation 0 2 .null 10,
      .timer 0 ⟨1⟩ 10] ∧
    Causality history m 0 2 graft := by
  have settled : settleAll 60 (start () grafted) = some grown := rfl
  obtain ⟨⟨history, run⟩, _⟩ := settleAll_traced settled
  have life := (Life.start () grafted true).traced run
  have found : grown.tasks[2]? = some ⟨.continuation (some 0) 0 2 graft, .ended, 0⟩ := rfl
  obtain ⟨⟨time, call⟩, made, starts, _⟩ := life.filed.record found
  obtain rfl := Call.attach_of_job starts
  exact ⟨_, grown, time, life, made, rfl, continuations_causal life made⟩

end Machine
end RuleHost.Loop
