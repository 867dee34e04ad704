import RuleHost.Proofs.DeadlineOrder
import RuleHost.Proofs.TaskDischarge

/-! When continuations begin. The program of a continuation is begun at most once, and only when its source
has been resolved; what it answers is all that resolves its handle. So a continuation that hangs on another
one begins after that one has answered. -/

namespace RuleHost.Loop

variable {σ : Type}

def Entry.continues (handle : CellId) : Entry → Bool
  | .continuation _ target _ _ => target == handle
  | _ => false

def invocations (handle : CellId) (entries : List Entry) : Nat :=
  entries.countP (Entry.continues handle)

theorem invocations_cons (handle : CellId) (entry : Entry) (entries : List Entry) :
    invocations handle (entry :: entries) =
      invocations handle entries + if entry.continues handle then 1 else 0 :=
  List.countP_cons

theorem invocations_pos {handle : CellId} {entries : List Entry} :
    0 < invocations handle entries ↔
      ∃ source value time, .continuation source handle value time ∈ entries := by
  rw [invocations, List.countP_pos_iff]
  constructor
  · rintro ⟨entry, member, same⟩
    cases entry with
    | continuation source target value time =>
      obtain rfl : target = handle := by simpa [Entry.continues] using same
      exact ⟨source, value, time, member⟩
    | timer | delay | function => cases same
  · rintro ⟨source, value, time, member⟩
    exact ⟨_, member, by simp [Entry.continues]⟩

namespace Machine

/-- What a move does to the callbacks of continuations and to the one that runs. -/
inductive Entering (m : Machine σ) (call : Option (Call σ)) (n : Machine σ) : Prop where
  | none (entries : n.entries = m.entries) (debt : n.debt? = m.debt?)
  | other (entry : Entry) (entries : n.entries = entry :: m.entries)
      (apart : ∀ handle, entry.continues handle = false) (debt : n.debt? = m.debt?)
  | begins (id : TaskId) (rest : List TaskId) (task : Task σ) (counter : Option SchedulerId)
      (source target : CellId) (body : Value → Program σ) (value : Value) (time : Nat)
      (awake : Awake m id rest task) (job : task.job = .continuation counter source target body)
      (resolved : m.toWorld.state? source = some (.resolved value time))
      (entries : n.entries = .continuation source target value m.now :: m.entries)
      (tasks : n.tasks = (m.lastTurn id rest).tasks) (debt : n.debt? = some target) (now : n.now = m.now)
  | returns (target : CellId) (outcome : Outcome) (answer : call = some (.answer target outcome))
      (owed : m.debt? = some target) (entries : n.entries = m.entries) (debt : n.debt? = Option.none)

theorem Move.entering {m n : Machine σ} {call : Option (Call σ)} (move : Move m call n) :
    Entering m call n := by
  have settled {w : Machine σ} (cell : CellId) (state : CellState) :
      (w.settle cell state).debt? = w.debt? := by simp only [debt?, focus_settle]
  cases move with
  | quiet | scheduler | reserve | timeout | delay | countedDelay | attach | refuse | clearGone | create
  | skip | sleep | stale | wait | drop | elapse => exact .none rfl rfl
  | clear scheduler id task table =>
    refine .none (entries_cancel _ _) ?_
    simp only [debt?, focus_cancel]
    rfl
  | settle cell state => exact .none (entries_settle _ _ _) (settled cell state)
  | dropOwing id rest task target => exact .none (entries_settle _ _ _) (settled target _)
  | function id arguments => exact .other _ rfl (fun _ => rfl) rfl
  | fireCallback => exact .other _ rfl (fun _ => rfl) rfl
  | fireDelay => exact .other _ (entries_settle _ _ _) (fun _ => rfl) (settled _ _)
  | finishDelay => exact .other _ (entries_settle _ _ _) (fun _ => rfl) (settled _ _)
  | startBody id rest task source target body value time awake job resolved =>
    exact .begins id rest task _ source target body value time awake job resolved rfl rfl rfl rfl
  | startCounted id rest task scheduler source target body value time awake job resolved =>
    exact .begins id rest task _ source target body value time awake job resolved rfl rfl rfl rfl
  | conclude source target outcome running =>
    refine .returns target outcome rfl ?_ (entries_settle _ _ _) (settled target _)
    simp only [debt?, running]

/-- How a deferred value comes to be resolved, if it was not before. -/
inductive Resolving (m : Machine σ) (call : Option (Call σ)) (cell : CellId) (value : Value)
    (time : Nat) : Prop where
  | before (stored : m.toWorld.state? cell = some (.resolved value time))
  | created (fresh : m.toWorld.state? cell = none)
  | program (held : m.toWorld.state? cell = some (.pending .program))
  | task (id : TaskId) (task : Task σ) (found : m.tasks[id]? = some task)
      (owes : task.job.target? = some cell)
      (other : ∀ counter source target body, task.job ≠ .continuation counter source target body)
  | answered (answer : call = some (.answer cell (.ok value))) (now : time = m.now)

theorem Move.resolving {m n : Machine σ} {call : Option (Call σ)} (move : Move m call n) {cell : CellId}
    {value : Value} {time : Nat} (stored : n.toWorld.state? cell = some (.resolved value time)) :
    Resolving m call cell value time := by
  have created {state : CellState} (added : (m.newCell state).2.toWorld.state? cell =
      some (.resolved value time)) : Resolving m call cell value time := by
    rw [state?_newCell] at added
    split at added
    next fresh => exact .created (state?_eq_none_iff.mpr (Nat.le_of_eq fresh.symm))
    next => exact .before added
  have delivered {w : Machine σ} {id : TaskId} {task : Task σ} {target : CellId} {state : CellState}
      (found : m.tasks[id]? = some task) (owes : task.job.target? = some target)
      (other : ∀ counter source target body, task.job ≠ .continuation counter source target body)
      (left : (w.settle target state).toWorld.state? cell = some (.resolved value time))
      (cells : w.cells = m.cells) : Resolving m call cell value time := by
    rcases state?_settle_cases w target cell state with ⟨rfl, _⟩ | same
    · exact .task id task found owes other
    · rw [same, World.state?, cells] at left
      exact .before left
  cases move with
  | quiet | function | scheduler | reserve | timeout | refuse | clearGone | skip | sleep | stale
  | fireCallback | startBody | startCounted | wait | drop | elapse => exact .before stored
  | delay | countedDelay | attach => exact created stored
  | create state lawful => exact created stored
  | clear scheduler id task table =>
    simp only [World.state?, cells_cancel] at stored
    exact .before stored
  | settle settled state held =>
    rcases state?_settle_cases m settled cell state with ⟨rfl, _⟩ | same
    · exact .program held
    · exact .before (same.symm.trans stored)
  | conclude source target outcome running =>
    rcases state?_settle_cases { m with focus := .idle } target cell (.ofOutcome m.now outcome) with
      ⟨rfl, left, _⟩ | same
    · cases outcome with
      | ok result => cases left.symm.trans stored; exact .answered rfl rfl
      | error failure => cases left.symm.trans stored
    · exact .before (same.symm.trans stored)
  | dropOwing id rest task target =>
    rcases state?_settle_cases (m.lastTurn id rest) target cell .abandoned with ⟨_, lost, _⟩ | same
    · cases lost.symm.trans stored
    · exact .before (same.symm.trans stored)
  | fireDelay id rest task scheduler timer duration target result table awake job =>
    exact delivered awake.found (by rw [job, Job.target?]) (by simp [job]) stored rfl
  | finishDelay id rest task duration target result awake job =>
    exact delivered awake.found (by rw [job, Job.target?]) (by simp [job]) stored rfl

theorem Move.attached {m n : Machine σ} {counter : Option SchedulerId} {source handle : CellId}
    {body : Value → Program σ} (move : Move m (some (.attach counter source body handle)) n) :
    m.toWorld.state? handle = none ∧ n.toWorld.state? handle = some (.pending .task) := by
  cases move with
  | attach _ _ _ known inside =>
    refine ⟨state?_eq_none_iff.mpr (Nat.le_refl _), ?_⟩
    exact (state?_newCell m _ _).trans (if_pos rfl)

theorem Move.answered {m n : Machine σ} {target : CellId} {outcome : Outcome} (owing : Owing m)
    (move : Move m (some (.answer target outcome)) n) :
    m.debt? = some target ∧ n.toWorld.state? target = some (.ofOutcome m.now outcome) := by
  cases move with
  | conclude source _ _ running =>
    have owed : m.debt? = some target := by simp only [debt?, running]
    have pending : { m with focus := .idle }.toWorld.state? target = some (.pending .task) :=
      (owing.debt target owed).1
    exact ⟨owed, (state?_settle _ target target _ _ pending).trans (if_pos rfl)⟩

/-- A continuation whose program was begun with the value of its source. Its task is over. -/
def Begun (m : Machine σ) (source target : CellId) (value : Value) (time : Nat) : Prop :=
  ∃ (id : TaskId) (task : Task σ) (counter : Option SchedulerId) (body : Value → Program σ)
    (settled : Nat), m.tasks[id]? = some task ∧ task.phase = .ended ∧
      task.job = .continuation counter source target body ∧
        m.toWorld.state? source = some (.resolved value settled) ∧ settled ≤ time

theorem Begun.persists {m n : Machine σ} {source target : CellId} {value : Value} {time : Nat}
    (begun : Begun m source target value time) (persists : Persists m n) :
    Begun n source target value time := by
  obtain ⟨id, task, counter, body, settled, found, ended, job, resolved, past⟩ := begun
  obtain ⟨later, stored, _, work, finished⟩ := persists.tasks id task found
  exact ⟨id, later, counter, body, settled, stored, finished ended, work.trans job,
    persists.resolved resolved, past⟩

/-- Every continuation has its cause: the value of its source before it begins, and its own answer before
its handle is resolved. -/
structure Causal (history : List (Record σ)) (m : Machine σ) : Prop where
  begun : ∀ source target value time, .continuation source target value time ∈ m.entries →
    Begun m source target value time
  once : ∀ target, invocations target m.entries ≤ 1
  running : ∀ target, m.debt? = some target → 0 < invocations target m.entries
  returned : ∀ target, 0 < invocations target m.entries → m.debt? = some target ∨
    ∃ time outcome, ⟨time, .answer target outcome⟩ ∈ history
  answered : ∀ time target outcome, ⟨time, .answer target outcome⟩ ∈ history →
    0 < invocations target m.entries ∧ m.toWorld.state? target = some (.ofOutcome time outcome)
  resolved : ∀ time counter source body target, ⟨time, .attach counter source body target⟩ ∈ history →
    ∀ value settled, m.toWorld.state? target = some (.resolved value settled) →
      ⟨settled, .answer target (.ok value)⟩ ∈ history
  chained : ∀ time counter first body source, ⟨time, .attach counter first body source⟩ ∈ history →
    ∀ target value entered older, .continuation source target value entered :: older <:+ m.entries →
      0 < invocations source older

section Causes

variable {history : List (Record σ)} {m n : Machine σ} {call : Option (Call σ)}

theorem mem_noted {m : Machine σ} {call : Option (Call σ)} {record : Record σ}
    (member : record ∈ m.noted call) : call = some record.call ∧ record.time = m.now := by
  obtain ⟨made, same, rfl⟩ := Option.map_eq_some_iff.mp (Option.mem_toList.mp member)
  exact ⟨same, rfl⟩

/-- The task of a continuation that was attached. -/
theorem Filed.continuation (filed : Filed history m) {time : Nat} {counter : Option SchedulerId}
    {source handle : CellId} {body : Value → Program σ}
    (made : ⟨time, .attach counter source body handle⟩ ∈ history) :
    ∃ (id : TaskId) (task : Task σ), m.tasks[id]? = some task ∧
      task.job = .continuation counter source handle body ∧ task.job.target? = some handle := by
  obtain ⟨id, task, found, _, job⟩ := filed.task made rfl
  exact ⟨id, task, found, job, by rw [job, Job.target?]⟩

/-- A continuation whose task goes on has not begun. -/
theorem Causal.unbegun (causal : Causal history m) (owing : Owing m) {id : TaskId} {task : Task σ}
    (found : m.tasks[id]? = some task) (live : task.phase ≠ .ended) {target : CellId}
    (owes : task.job.target? = some target) : invocations target m.entries = 0 := by
  apply Nat.eq_zero_of_not_pos
  intro entered
  obtain ⟨source, value, time, member⟩ := invocations_pos.mp entered
  obtain ⟨other, second, counter, body, _, stored, ended, job, _⟩ := causal.begun _ _ _ _ member
  obtain rfl := owing.unique found stored owes (by rw [job, Job.target?])
  exact live ended

theorem Causal.begun_move (causal : Causal history m) (punctual : Punctual m) (move : Move m call n)
    {source target : CellId} {value : Value} {time : Nat}
    (member : .continuation source target value time ∈ n.entries) : Begun n source target value time := by
  have persists := move.persists
  have before (old : .continuation source target value time ∈ m.entries) :
      Begun n source target value time := (causal.begun _ _ _ _ old).persists persists
  cases move.entering with
  | none entries => exact before (entries ▸ member)
  | returns _ _ _ _ entries => exact before (entries ▸ member)
  | other entry entries apart =>
    rw [entries] at member
    rcases List.mem_cons.mp member with rfl | old
    · simpa [Entry.continues] using apart target
    · exact before old
  | begins id rest task counter _ _ body _ settled awake job resolved entries tasks =>
    rw [entries] at member
    rcases List.mem_cons.mp member with same | old
    · cases same
      refine ⟨id, { task with phase := .ended }, counter, body, settled, ?_, rfl, job,
        persists.resolved resolved, punctual.settled _ _ _ resolved⟩
      rw [tasks]
      exact found_lastTurn awake.toPolled
    · exact before old

theorem Causal.once_move (causal : Causal history m) (owing : Owing m) (move : Move m call n)
    (target : CellId) : invocations target n.entries ≤ 1 := by
  have once := causal.once target
  cases move.entering with
  | none entries => rw [entries]; exact once
  | returns _ _ _ _ entries => rw [entries]; exact once
  | other entry entries apart =>
    rw [entries, invocations_cons, apart target]
    exact once
  | begins id rest task counter source owed body value settled awake job resolved entries =>
    rw [entries, invocations_cons]
    split
    next same =>
      obtain rfl : owed = target := by simpa [Entry.continues] using same
      have unbegun := causal.unbegun owing awake.found awake.live (by rw [job, Job.target?])
      exact Nat.le_of_eq (congrArg (· + 1) unbegun)
    next => exact once

theorem Causal.running_move (causal : Causal history m) (move : Move m call n) {target : CellId}
    (owed : n.debt? = some target) : 0 < invocations target n.entries := by
  have before (same : m.debt? = some target) : 0 < invocations target n.entries :=
    Nat.lt_of_lt_of_le (causal.running target same) move.persists.entries.sublist.countP_le
  cases move.entering with
  | none _ debt | other _ _ _ debt => exact before (debt.symm.trans owed)
  | returns _ _ _ _ _ debt => cases debt.symm.trans owed
  | begins _ _ _ _ source other _ value _ _ _ _ entries _ debt =>
    cases debt.symm.trans owed
    refine invocations_pos.mpr ⟨source, value, m.now, ?_⟩
    rw [entries]
    exact List.mem_cons_self

/-- A continuation that has begun goes on to run until it answers. -/
theorem Causal.returned_move (causal : Causal history m) (move : Move m call n) {target : CellId}
    (entered : 0 < invocations target n.entries) : n.debt? = some target ∨
      ∃ time outcome, ⟨time, .answer target outcome⟩ ∈ m.noted call ++ history := by
  have before (old : 0 < invocations target m.entries) : m.debt? = some target ∨
      ∃ time outcome, ⟨time, .answer target outcome⟩ ∈ m.noted call ++ history := by
    rcases causal.returned target old with owed | ⟨time, outcome, member⟩
    · exact .inl owed
    · exact .inr ⟨time, outcome, List.mem_append_right _ member⟩
  cases move.entering with
  | none entries debt =>
    rw [debt]
    exact before (entries ▸ entered)
  | other entry entries apart debt =>
    rw [entries, invocations_cons, apart target] at entered
    rw [debt]
    exact before entered
  | returns owed outcome answer owes entries =>
    rcases before (entries ▸ entered) with same | left
    · cases owes.symm.trans same
      subst answer
      exact .inr ⟨m.now, outcome, List.mem_append_left _ List.mem_cons_self⟩
    · exact .inr left
  | begins id rest task counter source owed body value settled awake job resolved entries tasks debt =>
    by_cases here : owed = target
    · exact .inl (here ▸ debt)
    · rw [entries, invocations_cons, if_neg (by simpa [Entry.continues] using here)] at entered
      exact .inr ((before entered).resolve_left (not_owed awake.idle target))

theorem Causal.answered_move (causal : Causal history m) (owing : Owing m) (move : Move m call n)
    {time : Nat} {target : CellId} {outcome : Outcome}
    (member : ⟨time, .answer target outcome⟩ ∈ m.noted call ++ history) :
    0 < invocations target n.entries ∧ n.toWorld.state? target = some (.ofOutcome time outcome) := by
  have persists := move.persists
  have mono : invocations target m.entries ≤ invocations target n.entries :=
    persists.entries.sublist.countP_le
  rcases List.mem_append.mp member with new | old
  · obtain ⟨rfl, rfl⟩ := mem_noted new
    obtain ⟨owed, left⟩ := move.answered owing
    exact ⟨Nat.lt_of_lt_of_le (causal.running target owed) mono, left⟩
  · obtain ⟨entered, left⟩ := causal.answered time target outcome old
    exact ⟨Nat.lt_of_lt_of_le entered mono,
      persists.settled target _ left (CellState.ofOutcome_ne_pending time outcome)⟩

/-- A handle that is resolved is resolved by the answer of its continuation. -/
theorem Causal.resolved_move (causal : Causal history m) (life : Life history m) (move : Move m call n)
    {time : Nat} {counter : Option SchedulerId} {source target : CellId} {body : Value → Program σ}
    (made : ⟨time, .attach counter source body target⟩ ∈ m.noted call ++ history) {value : Value}
    {settled : Nat} (stored : n.toWorld.state? target = some (.resolved value settled)) :
    ⟨settled, .answer target (.ok value)⟩ ∈ m.noted call ++ history := by
  rcases List.mem_append.mp made with new | old
  · obtain ⟨rfl, _⟩ := mem_noted new
    cases move.attached.2.symm.trans stored
  · obtain ⟨id, task, found, job, owes⟩ := life.filed.continuation old
    cases move.resolving stored with
    | before earlier => exact List.mem_append_right _ (causal.resolved _ _ _ _ _ old _ _ earlier)
    | created fresh => exact absurd fresh (life.owing.targets id task target found owes)
    | program held =>
      by_cases live : task.phase = .ended
      · rcases life.discharged id task target found live owes with ⟨state, before, final⟩ | owed
        · cases held.symm.trans before
          exact absurd rfl (final .program)
        · cases held.symm.trans (life.owing.debt target owed).1
      · cases held.symm.trans (life.owing.live id task target found live owes)
    | task other second present shares different =>
      obtain rfl := life.owing.unique found present owes shares
      exact absurd job (different _ _ _ _)
    | answered answer now =>
      subst answer now
      exact List.mem_append_left _ List.mem_cons_self

/-- A continuation that begins has a source whose own continuation, if it has one, has answered. -/
theorem Causal.chained_move (causal : Causal history m) (move : Move m call n)
    {time : Nat} {counter : Option SchedulerId} {first source : CellId} {body : Value → Program σ}
    (made : ⟨time, .attach counter first body source⟩ ∈ m.noted call ++ history) {target : CellId}
    {value : Value} {entered : Nat} {older : List Entry}
    (suffix : .continuation source target value entered :: older <:+ n.entries) :
    0 < invocations source older := by
  have earlier (before : .continuation source target value entered :: older <:+ m.entries) :
      0 < invocations source older := by
    rcases List.mem_append.mp made with new | old
    · obtain ⟨rfl, _⟩ := mem_noted new
      obtain ⟨_, _, _, _, _, _, _, _, resolved, _⟩ :=
        causal.begun _ _ _ _ (before.mem List.mem_cons_self)
      cases move.attached.1.symm.trans resolved
    · exact causal.chained _ _ _ _ _ old _ _ _ _ before
  cases move.entering with
  | none entries => exact earlier (entries ▸ suffix)
  | returns _ _ _ _ entries => exact earlier (entries ▸ suffix)
  | other entry entries apart =>
    rw [entries] at suffix
    rcases List.suffix_cons_iff.mp suffix with head | before
    · obtain ⟨rfl, rfl⟩ := List.cons.inj head
      simpa [Entry.continues] using apart target
    · exact earlier before
  | begins id rest task _ awaited owed _ _ _ awake job resolved entries =>
    rw [entries] at suffix
    rcases List.suffix_cons_iff.mp suffix with head | before
    · obtain ⟨same, rfl⟩ := List.cons.inj head
      cases same
      rcases List.mem_append.mp made with new | old
      · obtain ⟨rfl, _⟩ := mem_noted new
        cases move.attached.1.symm.trans resolved
      · exact (causal.answered _ _ _ (causal.resolved _ _ _ _ _ old _ _ resolved)).1
    · exact earlier before

end Causes

theorem Causal.invariant : Invariant (σ := σ) Life Causal where
  alike := by
    intro history m n alike causal
    refine ⟨?_, ?_, ?_, ?_, ?_, ?_, ?_⟩
    · rw [alike.entries]
      exact fun source target value time member => (causal.begun _ _ _ _ member).persists alike.persists
    · rw [alike.entries]
      exact causal.once
    · rw [alike.entries, alike.debt]
      exact causal.running
    · rw [alike.entries, alike.debt]
      exact causal.returned
    · simp only [alike.entries, alike.states]
      exact causal.answered
    · simp only [alike.states]
      exact causal.resolved
    · rw [alike.entries]
      exact causal.chained
  move := by
    intro history m n call life move causal
    refine ⟨?_, ?_, ?_, ?_, ?_, ?_, ?_⟩
    · exact fun source target value time member => causal.begun_move life.punctual move member
    · exact fun target => causal.once_move life.owing move target
    · exact fun target owed => causal.running_move move owed
    · exact fun target entered => causal.returned_move move entered
    · exact fun time target outcome member => causal.answered_move life.owing move member
    · exact fun time counter source body target made value settled stored =>
        causal.resolved_move life move made stored
    · exact fun time counter first body source made target value entered older suffix =>
        causal.chained_move move made suffix

/-- A loop that is taken away begins nothing and answers nothing. -/
theorem Causal.lasting : Lasting (σ := σ) Life Causal where
  toInvariant := Causal.invariant
  leave := by
    intro history m life idle causal
    have persists := persists_tearDown life.owing idle
    have entries := entries_tearDown m
    have debt := debt?_tearDown m
    refine ⟨?_, ?_, ?_, ?_, ?_, ?_, ?_⟩
    · rw [entries]
      exact fun source target value time member => (causal.begun _ _ _ _ member).persists persists
    · rw [entries]
      exact causal.once
    · rw [entries, debt]
      exact causal.running
    · rw [entries, debt]
      exact causal.returned
    · rw [entries]
      intro time target outcome member
      obtain ⟨entered, left⟩ := causal.answered time target outcome member
      exact ⟨entered, persists.settled target _ left (CellState.ofOutcome_ne_pending time outcome)⟩
    · intro time counter source body target made value settled stored
      apply causal.resolved time counter source body target made
      rcases state?_tearDown life.owing idle target with ⟨_, lost⟩ | kept
      · cases lost.symm.trans stored
      · exact kept.symm.trans stored
    · rw [entries]
      exact causal.chained

theorem Life.causal {history : List (Record σ)} {m : Machine σ} (life : Life history m) :
    Causal history m := by
  refine Causal.lasting.life (fun memory script attached => ?_) (fun life => life) life
  refine ⟨?_, ?_, ?_, ?_, ?_, ?_, ?_⟩
  · simp [Machine.start]
  · simp [Machine.start, invocations]
  · simp [Machine.start, debt?]
  · simp [Machine.start, invocations]
  · simp
  · simp
  · simp

end Machine
end RuleHost.Loop
