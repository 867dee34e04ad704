import RuleHost.Proofs.LoopDebts
import RuleHost.Proofs.TimerLedger

/-! Every task was started by a call, in the order of the calls. Who knows the call knows the task, and a
timer number or a handle tells which call it was. -/

namespace RuleHost.Loop

variable {σ : Type}

def Call.job? : Call σ → Option (Job σ)
  | .timeout scheduler duration callback id => some (.timer scheduler id duration (.run callback))
  | .delay duration value handle => some (.delay duration handle value)
  | .countedDelay scheduler duration value id handle =>
    some (.timer scheduler id duration (.resolve handle value))
  | .attach counter source body handle => some (.continuation counter source handle body)
  | .clear _ _ _ => none
  | .answer _ _ => none

def Record.start? (record : Record σ) : Option (Nat × Job σ) :=
  record.call.job?.map fun job => (record.time, job)

theorem Call.issues?_of_job {call : Call σ} {scheduler : SchedulerId} {id : TimerId} {duration : Nat}
    {effect : TimerEffect σ} (starts : call.job? = some (.timer scheduler id duration effect)) :
    call.issues? scheduler = some id := by
  cases call <;> cases starts <;> simp [Call.issues?]

namespace Machine

def Filed (history : List (Record σ)) (m : Machine σ) : Prop :=
  m.tasks.toList.map (fun task => (task.born, task.job)) = history.reverse.filterMap Record.start?

namespace Filed

variable {history : List (Record σ)} {m n : Machine σ}

theorem same (filed : Filed history m) (tasks : n.tasks = m.tasks) : Filed history n := by
  unfold Filed
  rw [tasks]
  exact filed

theorem idle (filed : Filed history m) {record : Record σ} (nothing : record.start? = none) :
    Filed (record :: history) m := by
  have kept : (record :: history).reverse.filterMap Record.start? =
      history.reverse.filterMap Record.start? := by
    simp [List.filterMap_append, nothing]
  exact filed.trans kept.symm

theorem spawn (filed : Filed history m) {record : Record σ} {job : Job σ}
    (starts : record.start? = some (m.now, job)) : Filed (record :: history) (m.spawn job) := by
  unfold Filed at filed ⊢
  simp only [Machine.spawn, Array.toList_push, List.map_append, List.map_cons, List.map_nil, filed,
    List.reverse_cons, List.filterMap_append, List.filterMap_cons, starts, List.filterMap_nil]

theorem setPhase (filed : Filed history m) (id : TaskId) (phase : Phase) :
    Filed history (m.setPhase id phase) := by
  refine Eq.trans ?_ filed
  apply List.ext_getElem?
  intro other
  simp only [List.getElem?_map, Array.getElem?_toList, tasks_setPhase]
  split
  · cases m.tasks[other]? <;> rfl
  · rfl

/-- The task that a call started. -/
theorem task (filed : Filed history m) {record : Record σ} (member : record ∈ history) {job : Job σ}
    (starts : record.call.job? = some job) :
    ∃ (id : TaskId) (task : Task σ), m.tasks[id]? = some task ∧ task.born = record.time ∧
      task.job = job := by
  have listed : (record.time, job) ∈ history.reverse.filterMap Record.start? := by
    refine List.mem_filterMap.mpr ⟨record, List.mem_reverse.mpr member, ?_⟩
    simp only [Record.start?, starts, Option.map_some]
  rw [← filed] at listed
  obtain ⟨task, present, same⟩ := List.mem_map.mp listed
  obtain ⟨id, found⟩ := List.mem_iff_getElem?.mp present
  exact ⟨id, task, by simpa using found, congrArg Prod.fst same, congrArg Prod.snd same⟩

/-- The call that started a task. -/
theorem record (filed : Filed history m) {id : TaskId} {task : Task σ}
    (found : m.tasks[id]? = some task) :
    ∃ record ∈ history, record.call.job? = some task.job ∧ record.time = task.born := by
  have listed : (task.born, task.job) ∈ m.tasks.toList.map fun task => (task.born, task.job) :=
    List.mem_map.mpr ⟨task, Array.mem_toList_iff.mpr (Array.mem_of_getElem? found), rfl⟩
  rw [filed] at listed
  obtain ⟨record, member, starts⟩ := List.mem_filterMap.mp listed
  obtain ⟨job, same, pair⟩ := Option.map_eq_some_iff.mp starts
  obtain ⟨time, rfl⟩ := Prod.mk.inj pair
  exact ⟨record, List.mem_reverse.mp member, same, time⟩

end Filed

theorem Filed.invariant : Invariant (σ := σ) (fun _ _ => True) Filed where
  alike alike filed := filed.same alike.tasks
  move := by
    intro history m n call _ move filed
    cases move with
    | quiet | function | scheduler | reserve | create | skip | elapse => exact filed
    | timeout => exact (filed.same rfl).spawn rfl
    | delay => exact (filed.same rfl).spawn rfl
    | countedDelay => exact (filed.same rfl).spawn rfl
    | attach => exact (filed.same rfl).spawn rfl
    | refuse => exact filed.idle rfl
    | clear scheduler id task table => exact ((filed.idle rfl).setPhase task .cancelled).same (tasks_cancel _ _)
    | clearGone => exact filed.idle rfl
    | settle => exact filed.same (tasks_settle _ _ _)
    | conclude => exact (filed.idle rfl).same (tasks_settle _ _ _)
    | sleep id | wait id => exact filed.setPhase id _
    | stale id | fireCallback id | startBody id | startCounted id | drop id => exact filed.setPhase id .ended
    | fireDelay id | finishDelay id | dropOwing id =>
      exact (filed.setPhase id .ended).same (tasks_settle _ _ _)

theorem Filed.start (memory : σ) (script : Script σ) (attached : Bool) :
    Filed [] (start memory script attached) := rfl

/-- Where numbers ascend, a number tells which call it was given to. -/
private theorem issued_inj {scheduler : SchedulerId} {history : List (Record σ)}
    (ascending : (issued scheduler history).Pairwise fun newer older => older.number < newer.number)
    {id : TimerId} {record other : Record σ} (member : record ∈ history) (present : other ∈ history)
    (issues : record.call.issues? scheduler = some id)
    (shares : other.call.issues? scheduler = some id) : record = other := by
  induction history with
  | nil => cases member
  | cons newest history ih =>
    have later {newer older : Record σ} (listed : older ∈ history)
        (given : newer.call.issues? scheduler = some id)
        (again : older.call.issues? scheduler = some id) : newest ≠ newer := by
      rintro rfl
      simp only [issued, List.filterMap_cons, given, List.pairwise_cons] at ascending
      exact Nat.lt_irrefl _ (ascending.1 id (List.mem_filterMap.mpr ⟨older, listed, again⟩))
    rcases List.mem_cons.mp member with rfl | earlier
    · rcases List.mem_cons.mp present with rfl | listed
      · rfl
      · exact absurd rfl (later listed issues shares)
    · rcases List.mem_cons.mp present with rfl | listed
      · exact absurd rfl (later earlier shares issues)
      · exact ih (ascending.sublist ((List.sublist_cons_self newest history).filterMap _)) earlier listed

/-- Two tasks never wait for the same timer. -/
theorem Filed.timer_unique {history : List (Record σ)} {m : Machine σ} (filed : Filed history m)
    (ledger : Ledger history m) {first second : TaskId} {task other : Task σ}
    (found : m.tasks[first]? = some task) (stored : m.tasks[second]? = some other)
    {scheduler : SchedulerId} {id : TimerId} {duration span : Nat} {effect action : TimerEffect σ}
    (job : task.job = .timer scheduler id duration effect)
    (work : other.job = .timer scheduler id span action) :
    task.born = other.born ∧ task.job = other.job := by
  obtain ⟨record, member, starts, born⟩ := filed.record found
  obtain ⟨twin, present, begins, started⟩ := filed.record stored
  have same := issued_inj (ledger scheduler).ascending member present
    (Call.issues?_of_job (starts.trans (congrArg some job)))
    (Call.issues?_of_job (begins.trans (congrArg some work)))
  subst same
  exact ⟨born.symm.trans started, Option.some.inj (starts.symm.trans begins)⟩

end Machine
end RuleHost.Loop
