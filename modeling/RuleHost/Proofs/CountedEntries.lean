import RuleHost.Proofs.ContinuationCausality
import RuleHost.Proofs.ContinuationCounts

/-! What the count of a scheduler is a count of: the continuations that were entered and had been attached
through it, and no others. -/

namespace RuleHost.Loop

variable {σ : Type}

/-- Whether a call attached a continuation through a scheduler and handed out a certain handle. -/
def Call.attaches (scheduler : SchedulerId) (handle : CellId) : Call σ → Bool
  | .attach (some counter) _ _ target => counter == scheduler && target == handle
  | _ => false

def Entry.countedBy (scheduler : SchedulerId) (history : List (Record σ)) : Entry → Bool
  | .continuation _ target _ _ => history.any fun record => record.call.attaches scheduler target
  | _ => false

theorem Call.attaches_iff {scheduler : SchedulerId} {handle : CellId} {call : Call σ} :
    call.attaches scheduler handle = true ↔ ∃ source body, call = .attach (some scheduler) source body handle := by
  cases call with
  | attach counter source body target =>
    cases counter with
    | none => simp [attaches]
    | some counter => simp [attaches]
  | timeout | delay | countedDelay | clear | answer => simp [attaches]

theorem Entry.countedBy_iff {scheduler : SchedulerId} {history : List (Record σ)} {source handle : CellId}
    {value : Value} {time : Nat} : Entry.countedBy scheduler history (.continuation source handle value time) = true ↔
      ∃ made awaited body, ⟨made, .attach (some scheduler) awaited body handle⟩ ∈ history := by
  rw [countedBy, List.any_eq_true]
  constructor
  · rintro ⟨⟨made, call⟩, member, attaches⟩
    obtain ⟨awaited, body, rfl⟩ := Call.attaches_iff.mp attaches
    exact ⟨made, awaited, body, member⟩
  · rintro ⟨made, awaited, body, member⟩
    exact ⟨_, member, Call.attaches_iff.mpr ⟨awaited, body, rfl⟩⟩

namespace Machine

/-- What a move does to the callbacks and to the counts of continuations. -/
inductive Counting (m : Machine σ) (call : Option (Call σ)) (n : Machine σ) : Prop where
  | none (entries : n.entries = m.entries)
      (counts : ∀ scheduler, (n.toWorld.scheduler scheduler).stats.continuations =
        (m.toWorld.scheduler scheduler).stats.continuations)
  | other (entry : Entry) (entries : n.entries = entry :: m.entries)
      (apart : ∀ handle, entry.continues handle = false)
      (counts : ∀ scheduler, (n.toWorld.scheduler scheduler).stats.continuations =
        (m.toWorld.scheduler scheduler).stats.continuations)
  | begins (id : TaskId) (task : Task σ) (counter : Option SchedulerId) (source target : CellId)
      (body : Value → Program σ) (value : Value) (silent : call = Option.none) (found : m.tasks[id]? = some task)
      (job : task.job = .continuation counter source target body)
      (entries : n.entries = .continuation source target value m.now :: m.entries)
      (counts : ∀ scheduler, (n.toWorld.scheduler scheduler).stats.continuations =
        (m.toWorld.scheduler scheduler).stats.continuations + if counter = some scheduler then 1 else 0)

section Moves

variable {history : List (Record σ)} {m n : Machine σ} {call : Option (Call σ)}

theorem Move.counting (filed : Filed history m) (attached : Attached history m) (move : Move m call n) :
    Counting m call n := by
  cases move with
  | quiet | refuse | delay | attach | create | skip | elapse | sleep | wait | stale | drop =>
    exact .none rfl fun _ => rfl
  | function id arguments => exact .other _ rfl (fun _ => rfl) fun _ => rfl
  | scheduler =>
    refine .none rfl fun scheduler => ?_
    rw [scheduler_push]
  | reserve scheduler known => exact .none rfl (continuations_setScheduler known rfl rfl)
  | timeout scheduler duration callback known => exact .none rfl (continuations_setScheduler known rfl rfl)
  | countedDelay scheduler duration value known => exact .none rfl (continuations_setScheduler known rfl rfl)
  | clear scheduler timer task table held =>
    exact .none (entries_cancel _ _) (continuations_setScheduler (known_of_clear held) (schedulers_cancel _ _)
      (continuations_clear? held))
  | clearGone scheduler timer task table held =>
    exact .none rfl (continuations_setScheduler (known_of_clear held) rfl (continuations_clear? held))
  | settle | conclude | dropOwing =>
    refine .none (entries_settle _ _ _) fun scheduler => ?_
    exact congrArg (fun table => table.stats.continuations) (scheduler_settle _ _ _ scheduler)
  | fireCallback id rest task scheduler timer duration callback table awake job due fired =>
    exact .other _ rfl (fun _ => rfl)
      (continuations_setScheduler (known_of_fire fired) rfl (continuations_fire? fired))
  | fireDelay id rest task scheduler timer duration target value table awake job due fired =>
    exact .other _ (entries_settle _ _ _) (fun _ => rfl)
      (continuations_setScheduler (known_of_fire fired) (schedulers_settle _ _ _) (continuations_fire? fired))
  | finishDelay id rest task duration target value =>
    refine .other _ (entries_settle _ _ _) (fun _ => rfl) fun scheduler => ?_
    rw [scheduler_settle]
    rfl
  | startBody id rest task source target body value time awake job =>
    exact .begins id task none source target body value rfl awake.found job rfl fun _ => rfl
  | startCounted id rest task scheduler source target body value time awake job =>
    obtain ⟨⟨moment, made⟩, member, starts, _⟩ := filed.record awake.found
    rw [job] at starts
    obtain rfl := Call.attach_of_job starts
    have known := attached moment scheduler source body target member
    refine .begins id task (some scheduler) source target body value rfl awake.found job rfl fun other => ?_
    have lookup := scheduler_setScheduler m scheduler other
      (m.toWorld.scheduler scheduler).countContinuation known
    apply (congrArg (fun table => table.stats.continuations) lookup).trans
    by_cases same : scheduler = other
    · subst same
      simp [TimerTable.countContinuation]
    · simp [same]

theorem Entry.countedBy_other {scheduler : SchedulerId} {entry : Entry}
    (apart : ∀ handle, entry.continues handle = false) : entry.countedBy scheduler history = false := by
  cases entry with
  | continuation source target => simpa [Entry.continues] using apart target
  | timer | delay | function => rfl

/-- Who counts a continuation is settled when it is entered: a handle that is handed out later is another. -/
theorem Causal.countedBy_grow (causal : Causal history m) (owing : Owing m) (move : Move m call n)
    (scheduler : SchedulerId) {entry : Entry} (member : entry ∈ m.entries) :
    entry.countedBy scheduler (m.noted call ++ history) = entry.countedBy scheduler history := by
  cases entry with
  | timer | delay | function => rfl
  | continuation source target value time =>
    rw [Bool.eq_iff_iff, Entry.countedBy_iff, Entry.countedBy_iff]
    constructor
    · rintro ⟨made, awaited, body, new⟩
      rcases List.mem_append.mp new with new | old
      · obtain ⟨rfl, _⟩ := mem_noted new
        obtain ⟨id, task, _, _, _, found, _, job, _⟩ := causal.begun _ _ _ _ member
        exact absurd move.attached.1 (owing.targets id task target found (by rw [job, Job.target?]))
      · exact ⟨made, awaited, body, old⟩
    · rintro ⟨made, awaited, body, old⟩
      exact ⟨made, awaited, body, List.mem_append_right _ old⟩

/-- A continuation is counted by the scheduler that its task names. -/
theorem Filed.countedBy_task (filed : Filed history m) (owing : Owing m) (scheduler : SchedulerId) {id : TaskId}
    {task : Task σ} {counter : Option SchedulerId} {source target : CellId} {body : Value → Program σ}
    (found : m.tasks[id]? = some task) (job : task.job = .continuation counter source target body)
    (value : Value) (time : Nat) : Entry.countedBy scheduler history (.continuation source target value time) = true ↔
      counter = some scheduler := by
  rw [Entry.countedBy_iff]
  constructor
  · rintro ⟨made, awaited, program, member⟩
    obtain ⟨_, second, stored, work, owes⟩ := filed.continuation member
    obtain rfl := owing.unique found stored (by rw [job, Job.target?]) owes
    cases job.symm.trans work
    rfl
  · rintro rfl
    obtain ⟨⟨moment, made⟩, member, starts, _⟩ := filed.record found
    rw [job] at starts
    obtain rfl := Call.attach_of_job starts
    exact ⟨moment, source, body, member⟩

end Moves

/-- Every scheduler has counted the continuations that were entered and had been attached through it. -/
def Counted (history : List (Record σ)) (m : Machine σ) : Prop :=
  ∀ scheduler, (m.toWorld.scheduler scheduler).stats.continuations =
    m.entries.countP (Entry.countedBy scheduler history)

theorem Attached.lasting : Lasting (σ := σ) (fun _ _ => True) Attached where
  toInvariant := Attached.invariant
  leave _ _ attached := by
    intro time scheduler source body handle member
    rw [schedulers_tearDown]
    exact attached time scheduler source body handle member

theorem Life.attached {history : List (Record σ)} {m : Machine σ} (life : Life history m) : Attached history m :=
  Attached.lasting.life (fun _ _ _ _ _ _ _ _ member => absurd member List.not_mem_nil) (fun _ => trivial) life

/-- What a scheduler counts, in every loop that it lives through and in whatever order things happen. -/
theorem Counted.lasting : Lasting (σ := σ) Life Counted where
  alike := by
    intro history m n alike counted scheduler
    rw [alike.entries, ← counted scheduler]
    simp only [World.scheduler, alike.schedulers]
  move := by
    intro history m n call life move counted scheduler
    have old : m.entries.countP (Entry.countedBy scheduler (m.noted call ++ history)) =
        m.entries.countP (Entry.countedBy scheduler history) := by
      apply List.countP_congr
      intro entry member
      rw [life.causal.countedBy_grow life.owing move scheduler member]
    cases move.counting life.filed life.attached with
    | none entries counts => rw [counts, entries, old, counted scheduler]
    | other entry entries apart counts =>
      rw [counts, entries, List.countP_cons, Entry.countedBy_other apart, old, counted scheduler]
      rfl
    | begins id task counter source target body value silent found job entries counts =>
      subst silent
      have counter := life.filed.countedBy_task life.owing scheduler found job value m.now
      rw [counts, entries, counted scheduler, List.countP_cons]
      simp only [← counter]
      rfl
  leave := by
    intro history m life idle counted scheduler
    have tables : m.tearDown.toWorld.scheduler scheduler = m.toWorld.scheduler scheduler := by
      simp only [World.scheduler, schedulers_tearDown]
    rw [tables, entries_tearDown, counted scheduler]

theorem Life.counted {history : List (Record σ)} {m : Machine σ} (life : Life history m) : Counted history m := by
  refine Counted.lasting.life (fun memory script attached scheduler => ?_) (fun life => life) life
  rw [scheduler_start]
  rfl

end Machine
end RuleHost.Loop
