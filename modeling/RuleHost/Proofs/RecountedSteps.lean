import Mathlib.Data.List.Forall2
import RuleHost.Proofs.Recounting

/-! What two loops do whose scripts are the same but for who counts their continuations: they take the same
steps, and are in the same state after each of them but for the counts. -/

namespace RuleHost

section Rel

variable {α β γ δ : Type} {related : α → β → Prop} {other : γ → δ → Prop} {a : Option α} {b : Option β}

theorem rel_cases (rel : Option.Rel related a b) :
    (a = none ∧ b = none) ∨ ∃ x y, a = some x ∧ b = some y ∧ related x y := by
  cases rel with
  | none => exact .inl ⟨rfl, rfl⟩
  | some rel => exact .inr ⟨_, _, rfl, rfl, rel⟩

theorem rel_bind (first : Option.Rel related a b) {f : α → Option γ} {g : β → Option δ}
    (next : ∀ x y, related x y → Option.Rel other (f x) (g y)) : Option.Rel other (a.bind f) (b.bind g) := by
  cases first with
  | none => exact .none
  | some rel => exact next _ _ rel

theorem rel_map (first : Option.Rel related a b) {f : α → γ} {g : β → δ}
    (maps : ∀ x y, related x y → other (f x) (g y)) : Option.Rel other (a.map f) (b.map g) := by
  cases first with
  | none => exact .none
  | some rel => exact .some (maps _ _ rel)

theorem rel_imp {weaker : α → β → Prop} (rel : Option.Rel related a b) (imp : ∀ x y, related x y → weaker x y) :
    Option.Rel weaker a b := by
  cases rel with
  | none => exact .none
  | some rel => exact .some (imp _ _ rel)

end Rel

def Aligned {α β : Type} (related : α → β → Prop) (xs : Array α) (ys : Array β) : Prop :=
  ∀ index : Nat, Option.Rel related xs[index]? ys[index]?

namespace Aligned

variable {α β : Type} {related : α → β → Prop} {xs : Array α} {ys : Array β}

theorem refl {related : α → α → Prop} (reflexive : ∀ x, related x x) (xs : Array α) : Aligned related xs xs := by
  intro index
  cases xs[index]? with
  | none => exact .none
  | some x => exact .some (reflexive x)

theorem places (aligned : Aligned related xs ys) (index : Nat) :
    (xs[index]? = none ∧ ys[index]? = none) ∨
      ∃ x y, xs[index]? = some x ∧ ys[index]? = some y ∧ related x y := rel_cases (aligned index)

theorem size_eq (aligned : Aligned related xs ys) : xs.size = ys.size := by
  have outside (index : Nat) : xs.size ≤ index ↔ ys.size ≤ index := by
    rw [← Array.getElem?_eq_none_iff, ← Array.getElem?_eq_none_iff]
    obtain ⟨one, two⟩ | ⟨_, _, one, two, _⟩ := aligned.places index <;> simp [one, two]
  exact Nat.le_antisymm ((outside ys.size).mpr (Nat.le_refl _)) ((outside xs.size).mp (Nat.le_refl _))

theorem forall₂ (aligned : Aligned related xs ys) : List.Forall₂ related xs.toList ys.toList := by
  rw [List.forall₂_iff_get]
  refine ⟨aligned.size_eq, fun index one two => ?_⟩
  have entries := aligned index
  rw [Array.getElem?_eq_getElem one, Array.getElem?_eq_getElem two] at entries
  cases entries with
  | some rel => exact rel

theorem imp (aligned : Aligned related xs ys) {other : α → β → Prop} (weaker : ∀ x y, related x y → other x y) :
    Aligned other xs ys := fun index => rel_imp (aligned index) weaker

theorem push (aligned : Aligned related xs ys) {x : α} {y : β} (last : related x y) :
    Aligned related (xs.push x) (ys.push y) := by
  intro index
  rw [Array.getElem?_push, Array.getElem?_push, aligned.size_eq]
  split
  · exact .some last
  · exact aligned index

theorem modify (aligned : Aligned related xs ys) (place : Nat) {f : α → α} {g : β → β}
    (kept : ∀ x y, related x y → related (f x) (g y)) : Aligned related (xs.modify place f) (ys.modify place g) := by
  intro index
  rw [Array.getElem?_modify, Array.getElem?_modify]
  split
  · exact rel_map (aligned index) kept
  · exact aligned index

theorem map_eq (aligned : Aligned related xs ys) {γ : Type} {f : α → γ} {g : β → γ}
    (same : ∀ x y, related x y → f x = g y) : xs.toList.map f = ys.toList.map g := by
  apply List.ext_getElem?
  intro index
  rw [List.getElem?_map, List.getElem?_map, Array.getElem?_toList, Array.getElem?_toList]
  obtain ⟨one, two⟩ | ⟨x, y, one, two, rel⟩ := aligned.places index
  · rw [one, two]
    rfl
  · rw [one, two]
    exact congrArg some (same x y rel)

end Aligned

namespace TimerTable

variable {table other : TimerTable}

theorem uncounted_eq_iff : table.uncounted = other.uncounted ↔
    table = { other with stats := { other.stats with continuations := table.stats.continuations } } := by
  obtain ⟨_, _, _, _, _, _⟩ := table
  obtain ⟨_, _, _, _, _, _⟩ := other
  simp [uncounted, TimerStats.uncounted]

theorem ids_uncounted (same : table.uncounted = other.uncounted) : table.ids = other.ids := by
  rw [uncounted_eq_iff.mp same]

theorem pending_uncounted (same : table.uncounted = other.uncounted) : table.pending = other.pending := by
  rw [uncounted_eq_iff.mp same]

theorem stats_uncounted (same : table.uncounted = other.uncounted) :
    table.stats.uncounted = other.stats.uncounted := by
  rw [uncounted_eq_iff.mp same]
  rfl

theorem state?_uncounted (same : table.uncounted = other.uncounted) (id : TimerId) :
    table.state? id = other.state? id := by
  rw [uncounted_eq_iff.mp same]
  rfl

theorem reserve_uncounted (same : table.uncounted = other.uncounted) :
    table.reserve.uncounted = other.reserve.uncounted := by
  rw [uncounted_eq_iff.mp same]
  rfl

theorem schedule_uncounted (same : table.uncounted = other.uncounted) (task : Nat) :
    (table.schedule task).1 = (other.schedule task).1 ∧
      (table.schedule task).2.uncounted = (other.schedule task).2.uncounted := by
  rw [uncounted_eq_iff.mp same]
  exact ⟨rfl, rfl⟩

theorem fire?_uncounted (same : table.uncounted = other.uncounted) (id : TimerId) :
    Option.Rel (fun fired also => fired.uncounted = also.uncounted) (table.fire? id) (other.fire? id) := by
  rw [uncounted_eq_iff.mp same]
  unfold fire?
  dsimp only
  split
  · exact .some rfl
  · exact .none

theorem clear?_uncounted (same : table.uncounted = other.uncounted) (id : TimerId) :
    Option.Rel (fun cleared also => cleared.1 = also.1 ∧ cleared.2.uncounted = also.2.uncounted)
      (table.clear? id) (other.clear? id) := by
  rw [uncounted_eq_iff.mp same]
  unfold clear?
  dsimp only
  cases other.pending.find? id with
  | none => exact .none
  | some task => exact .some ⟨rfl, rfl⟩

end TimerTable

namespace Loop

variable {σ : Type} [HostMemory σ]

inductive Job.Recounted (like : Likeness σ) (known : Nat) : Job σ → Job σ → Prop where
  | callback (scheduler : SchedulerId) (id : TimerId) (duration : Nat) {callback same : Program σ}
      (bodies : callback.Recounted like known same) :
      Recounted like known (.timer scheduler id duration (.run callback)) (.timer scheduler id duration (.run same))
  | value (scheduler : SchedulerId) (id : TimerId) (duration : Nat) (target : CellId) (value : Value) :
      Recounted like known (.timer scheduler id duration (.resolve target value))
        (.timer scheduler id duration (.resolve target value))
  | delay (duration : Nat) (target : CellId) (value : Value) :
      Recounted like known (.delay duration target value) (.delay duration target value)
  | continuation {counter other : Option SchedulerId} (counters : Recounters known counter other)
      (source target : CellId) {body same : Value → Program σ}
      (bodies : ∀ value, (body value).Recounted like known (same value)) :
      Recounted like known (.continuation counter source target body) (.continuation other source target same)

structure Task.Recounted (like : Likeness σ) (known : Nat) (task other : Task σ) : Prop where
  job : task.job.Recounted like known other.job
  phase : task.phase = other.phase
  born : task.born = other.born

inductive Owner.Recounted (like : Likeness σ) (known : Nat) : Owner σ → Owner σ → Prop where
  | script {next other : Outcome → Script σ} (rest : ∀ outcome, (next outcome).Recounted like known (other outcome)) :
      Recounted like known (.script next) (.script other)
  | callback : Recounted like known .callback .callback
  | continuation (source target : CellId) :
      Recounted like known (.continuation source target) (.continuation source target)

inductive Focus.Recounted (like : Likeness σ) (known : Nat) : Focus σ → Focus σ → Prop where
  | idle : Recounted like known .idle .idle
  | program {body same : Program σ} {owner other : Owner σ} (bodies : body.Recounted like known same)
      (owners : owner.Recounted like known other) : Recounted like known (.program body owner) (.program same other)

inductive Progress.Recounted (like : Likeness σ) (known : Nat) : Progress σ → Progress σ → Prop where
  | ready {script other : Script σ} (scripts : script.Recounted like known other) :
      Recounted like known (.ready script) (.ready other)
  | busy : Recounted like known .busy .busy
  | waiting (alarm : Alarm) {next other : Answer → Script σ}
      (rest : ∀ answer, (next answer).Recounted like known (other answer)) :
      Recounted like known (.waiting alarm next) (.waiting alarm other)
  | ended (outcome : Outcome) : Recounted like known (.ended outcome) (.ended outcome)

/-- Machines that are the same but for counts, and whose programs are the same but for counters. -/
structure Mirrors (like : Likeness σ) (known : Nat) (m n : Machine σ) : Prop where
  now : m.now = n.now
  attached : m.attached = n.attached
  cells : m.cells = n.cells
  entries : m.entries = n.entries
  notices : m.notices = n.notices
  schedulers : m.schedulers.map TimerTable.uncounted = n.schedulers.map TimerTable.uncounted
  bound : known ≤ m.schedulers.size
  ready : m.ready = n.ready
  memory : like.alike known m.memory n.memory
  functions : Aligned (fun body same => ∀ arguments, (body arguments).Recounted like known (same arguments))
    m.functions n.functions
  tasks : Aligned (Task.Recounted like known) m.tasks n.tasks
  focus : m.focus.Recounted like known n.focus
  script : m.script.Recounted like known n.script

variable {like : Likeness σ} {known more : Nat}

theorem Task.Recounted.awaits {task other : Task σ} (recounted : task.Recounted like known other) (cell : CellId) :
    task.awaits cell = other.awaits cell := by
  obtain ⟨job, phase, _⟩ := task
  obtain ⟨_, _, _⟩ := other
  obtain ⟨jobs, rfl, _⟩ := recounted
  cases phase with
  | waiting => cases jobs <;> rfl
  | fresh | sleeping | cancelled | ended => rfl

theorem Task.Recounted.deadline? {task other : Task σ} (recounted : task.Recounted like known other) :
    task.deadline? = other.deadline? := by
  unfold Task.deadline?
  rw [recounted.phase]

theorem Job.Recounted.mono {job other : Job σ} (recounted : job.Recounted like known other) (less : known ≤ more) :
    job.Recounted like more other := by
  cases recounted with
  | callback scheduler id duration bodies => exact .callback scheduler id duration (bodies.mono less)
  | value scheduler id duration target value => exact .value scheduler id duration target value
  | delay duration target value => exact .delay duration target value
  | continuation counters source target bodies =>
    exact .continuation (counters.mono less) source target fun value => (bodies value).mono less

theorem Owner.Recounted.mono {owner other : Owner σ} (recounted : owner.Recounted like known other)
    (less : known ≤ more) : owner.Recounted like more other := by
  cases recounted with
  | script rest => exact .script fun outcome => (rest outcome).mono less
  | callback => exact .callback
  | continuation source target => exact .continuation source target

theorem Focus.Recounted.mono {focus other : Focus σ} (recounted : focus.Recounted like known other)
    (less : known ≤ more) : focus.Recounted like more other := by
  cases recounted with
  | idle => exact .idle
  | program bodies owners => exact .program (bodies.mono less) (owners.mono less)

theorem Progress.Recounted.mono {progress other : Progress σ} (recounted : progress.Recounted like known other)
    (less : known ≤ more) : progress.Recounted like more other := by
  cases recounted with
  | ready scripts => exact .ready (scripts.mono less)
  | busy => exact .busy
  | waiting alarm rest => exact .waiting alarm fun answer => (rest answer).mono less
  | ended outcome => exact .ended outcome

namespace Mirrors

variable {m n : Machine σ}

/-- More schedulers may be known, as many as there are. -/
theorem grow (mirrors : Mirrors like known m n) (less : known ≤ more) (bound : more ≤ m.schedulers.size) :
    Mirrors like more m n :=
  { mirrors with
    bound
    memory := like.mono less mirrors.memory
    functions := mirrors.functions.imp fun _ _ bodies arguments => (bodies arguments).mono less
    tasks := mirrors.tasks.imp fun _ _ task => ⟨task.job.mono less, task.phase, task.born⟩
    focus := mirrors.focus.mono less
    script := mirrors.script.mono less }

theorem uncounted (mirrors : Mirrors like known m n) : m.toWorld.uncounted = n.toWorld.uncounted := by
  simp only [World.uncounted, mirrors.now, mirrors.attached, mirrors.cells, mirrors.entries, mirrors.notices,
    mirrors.schedulers]

theorem size_schedulers (mirrors : Mirrors like known m n) : m.schedulers.size = n.schedulers.size :=
  World.size_uncounted mirrors.uncounted

theorem scheduler (mirrors : Mirrors like known m n) (id : SchedulerId) :
    (m.toWorld.scheduler id).uncounted = (n.toWorld.scheduler id).uncounted :=
  World.scheduler_uncounted mirrors.uncounted id

end Mirrors

namespace Machine

variable {m n : Machine σ} (mirrors : Mirrors like known m n)

include mirrors

theorem mirrors_setPhase (id : TaskId) (phase : Phase) :
    Mirrors like known (m.setPhase id phase) (n.setPhase id phase) :=
  { mirrors with tasks := mirrors.tasks.modify id fun _ _ task => ⟨task.job, rfl, task.born⟩ }

theorem mirrors_setScheduler (id : SchedulerId) {table other : TimerTable}
    (same : table.uncounted = other.uncounted) :
    Mirrors like known (m.setScheduler id table) (n.setScheduler id other) :=
  { mirrors with
    schedulers := by
      change (m.schedulers.setIfInBounds id table).map _ = (n.schedulers.setIfInBounds id other).map _
      rw [Array.map_setIfInBounds, Array.map_setIfInBounds, mirrors.schedulers, same]
    bound := by
      change known ≤ (m.schedulers.setIfInBounds id table).size
      rw [Array.size_setIfInBounds]
      exact mirrors.bound }

theorem mirrors_addScheduler : Mirrors like known { m with schedulers := m.schedulers.push {} }
    { n with schedulers := n.schedulers.push {} } :=
  { mirrors with
    schedulers := by
      change (m.schedulers.push {}).map _ = (n.schedulers.push {}).map _
      rw [Array.map_push, Array.map_push, mirrors.schedulers]
    bound := by
      change known ≤ (m.schedulers.push {}).size
      rw [Array.size_push]
      exact Nat.le_succ_of_le mirrors.bound }

theorem mirrors_enter (entry : Entry) : Mirrors like known (m.enter entry) (n.enter entry) :=
  { mirrors with entries := congrArg (entry :: ·) mirrors.entries }

theorem mirrors_note (notice : Notice) : Mirrors like known (m.note notice) (n.note notice) :=
  { mirrors with notices := congrArg (notice :: ·) mirrors.notices }

theorem mirrors_spawn {job other : Job σ} (jobs : job.Recounted like known other) :
    Mirrors like known (m.spawn job) (n.spawn other) :=
  { mirrors with
    tasks := mirrors.tasks.push ⟨jobs, rfl, mirrors.now⟩
    ready := by
      change m.ready ++ [m.tasks.size] = n.ready ++ [n.tasks.size]
      rw [mirrors.ready, mirrors.tasks.size_eq] }

theorem mirrors_queue (queue : List TaskId) :
    Mirrors like known { m with ready := queue } { n with ready := queue } :=
  { mirrors with ready := rfl }

theorem mirrors_newCell (state : CellState) : (m.newCell state).1 = (n.newCell state).1 ∧
    Mirrors like known (m.newCell state).2 (n.newCell state).2 :=
  ⟨congrArg Array.size mirrors.cells,
    { mirrors with cells := congrArg (fun cells => cells.push { state }) mirrors.cells }⟩

theorem mirrors_retain (cell : CellId) : Mirrors like known (m.retain cell) (n.retain cell) :=
  { mirrors with
    cells := congrArg (fun cells => cells.modify cell fun c => { c with handles := c.handles + 1 }) mirrors.cells }

theorem mirrors_release (cell : CellId) : Mirrors like known (m.release cell) (n.release cell) :=
  { mirrors with
    cells := congrArg (fun cells => cells.modify cell fun c => { c with handles := c.handles - 1 }) mirrors.cells }

/-- The tasks of a kind are the same, if the kind does not depend on programs and counters. -/
theorem tasksWhere_eq {property : Task σ → Bool}
    (kind : ∀ task other, Task.Recounted like known task other → property task = property other) :
    m.tasksWhere property = n.tasksWhere property := by
  unfold tasksWhere
  rw [mirrors.tasks.size_eq]
  apply List.filter_congr
  intro id _
  obtain ⟨one, two⟩ | ⟨task, other, one, two, alike⟩ := mirrors.tasks.places id
  · rw [one, two]
  · rw [one, two]
    exact kind task other alike

theorem mirrors_settle (cell : CellId) (state : CellState) :
    Mirrors like known (m.settle cell state) (n.settle cell state) := by
  have woken : m.tasksWhere (fun task => task.awaits cell) = n.tasksWhere fun task => task.awaits cell :=
    tasksWhere_eq mirrors fun _ _ alike => alike.awaits cell
  unfold settle
  rw [← mirrors.cells, ← woken]
  split
  · exact { mirrors with cells := rfl, ready := congrArg (· ++ _) mirrors.ready }
  · exact mirrors

theorem mirrors_resolve (cell : CellId) (value : Value) :
    Mirrors like known (m.resolve cell value) (n.resolve cell value) := by
  unfold resolve
  rw [← mirrors.now]
  exact mirrors_settle mirrors cell _

theorem mirrors_abandon (cell : CellId) : Mirrors like known (m.abandon cell) (n.abandon cell) :=
  mirrors_settle mirrors cell _

theorem mirrors_hosts {counter other : Option SchedulerId} (counters : Recounters known counter other) :
    m.hosts counter = n.hosts other := by
  unfold hosts
  rw [mirrors.attached, mirrors.size_schedulers]
  obtain rfl | ⟨one, two⟩ := counters
  · rfl
  · have there {counter : Option SchedulerId} (named : ∀ scheduler, counter = some scheduler → scheduler < known) :
        counter.all (fun scheduler => scheduler < n.schedulers.size) = true := by
      cases counter with
      | none => rfl
      | some scheduler =>
        have bound := mirrors.bound
        rw [mirrors.size_schedulers] at bound
        exact decide_eq_true (Nat.lt_of_lt_of_le (named scheduler rfl) bound)
    rw [there one, there two]

theorem mirrors_startTimer (scheduler : SchedulerId) (duration : Nat) {effect other : TimerEffect σ}
    (jobs : ∀ id, Job.Recounted like known (.timer scheduler id duration effect) (.timer scheduler id duration other)) :
    (m.startTimer scheduler duration effect).1 = (n.startTimer scheduler duration other).1 ∧
      Mirrors like known (m.startTimer scheduler duration effect).2 (n.startTimer scheduler duration other).2 := by
  have tables := mirrors.scheduler scheduler
  have started := TimerTable.schedule_uncounted tables n.tasks.size
  unfold startTimer
  rw [mirrors_hosts mirrors (.inl rfl), mirrors.tasks.size_eq]
  split
  · dsimp only
    rw [started.1]
    refine ⟨rfl, mirrors_note ?_ _⟩
    exact mirrors_spawn (mirrors_setScheduler mirrors scheduler started.2) (jobs _)
  · exact ⟨rfl, mirrors_setScheduler mirrors scheduler (TimerTable.reserve_uncounted tables)⟩

theorem mirrors_startDelay (counter : Option SchedulerId) (duration : Nat) (value : Value) :
    (m.startDelay counter duration value).1 = (n.startDelay counter duration value).1 ∧
      Mirrors like known (m.startDelay counter duration value).2 (n.startDelay counter duration value).2 := by
  have created := mirrors_newCell mirrors (.pending .task)
  unfold startDelay
  rw [mirrors_hosts mirrors (.inl rfl)]
  cases n.hosts counter with
  | true =>
    rw [if_pos rfl, if_pos rfl]
    dsimp only
    rw [created.1]
    cases counter with
    | some scheduler =>
      exact ⟨rfl, (mirrors_startTimer created.2 scheduler duration fun id => .value scheduler id duration _ value).2⟩
    | none => exact ⟨rfl, mirrors_spawn created.2 (.delay duration _ value)⟩
  | false =>
    rw [if_neg Bool.false_ne_true, if_neg Bool.false_ne_true]
    cases counter with
    | some scheduler =>
      exact ⟨rfl, mirrors_setScheduler mirrors scheduler
        (TimerTable.reserve_uncounted (mirrors.scheduler scheduler))⟩
    | none => exact ⟨rfl, mirrors⟩

theorem mirrors_clearTimer (scheduler : SchedulerId) (id : TimerId) :
    (m.clearTimer scheduler id).1 = (n.clearTimer scheduler id).1 ∧
      Mirrors like known (m.clearTimer scheduler id).2 (n.clearTimer scheduler id).2 := by
  have cleared := TimerTable.clear?_uncounted (mirrors.scheduler scheduler) id
  unfold clearTimer
  obtain ⟨one, two⟩ | ⟨⟨task, table⟩, ⟨_, other⟩, one, two, rfl, tables⟩ := rel_cases cleared
  · rw [one, two]
    exact ⟨rfl, mirrors⟩
  · rw [one, two]
    have noted := mirrors_note (mirrors_setScheduler mirrors scheduler tables) (.timerCancelled id)
    have dropped := mirrors_setPhase noted task .cancelled
    have gone : ((m.setScheduler scheduler table).note (.timerCancelled id)).tasks[task]?.any
        (fun t => t.phase == .ended) =
          ((n.setScheduler scheduler other).note (.timerCancelled id)).tasks[task]?.any fun t => t.phase == .ended := by
      obtain ⟨one, two⟩ | ⟨_, _, one, two, alike⟩ := noted.tasks.places task
      · rw [one, two]
      · rw [one, two, Option.any_some, Option.any_some, alike.phase]
    dsimp only
    rw [gone]
    split
    · exact ⟨rfl, noted⟩
    · refine ⟨rfl, ?_⟩
      dsimp only
      rw [dropped.ready]
      split
      · exact dropped
      · exact { dropped with ready := rfl }

theorem mirrors_startContinuation {counter other : Option SchedulerId} (counters : Recounters known counter other)
    (source : CellId) {body same : Value → Program σ}
    (bodies : ∀ value, (body value).Recounted like known (same value)) :
    (m.startContinuation counter source body).1 = (n.startContinuation other source same).1 ∧
      Mirrors like known (m.startContinuation counter source body).2 (n.startContinuation other source same).2 := by
  have created := mirrors_newCell (mirrors_retain mirrors source) (.pending .task)
  unfold startContinuation
  rw [mirrors_hosts mirrors counters, mirrors.cells]
  split
  · dsimp only
    rw [created.1]
    exact ⟨rfl, mirrors_spawn created.2 (.continuation counters source _ bodies)⟩
  · exact ⟨rfl, mirrors⟩

theorem mirrors_proceed {body same : Program σ} (bodies : body.Recounted like known same) {owner other : Owner σ}
    (owners : owner.Recounted like known other) : Mirrors like known (m.proceed body owner) (n.proceed same other) :=
  { mirrors with focus := .program bodies owners }

/-- A program that asks for something gets the same answer but for counts, and may know more schedulers. -/
theorem mirrors_perform (request : Request) :
    ∃ more, known ≤ more ∧ request.Alike more (m.perform request).1 (n.perform request).1 ∧
      Mirrors like more (m.perform request).2 (n.perform request).2 := by
  have stays {reply answer : request.Reply} (alike : request.Alike known reply answer) {p q : Machine σ}
      (after : Mirrors like known p q) : ∃ more, known ≤ more ∧ request.Alike more reply answer ∧
        Mirrors like more p q := ⟨known, Nat.le_refl known, alike, after⟩
  have opened (cell : CellId) : (m.cells[cell]?).any Cell.isOpen = (n.cells[cell]?).any Cell.isOpen := by
    rw [mirrors.cells]
  cases request with
  | look => exact ⟨_, mirrors.bound, ⟨mirrors.uncounted, rfl⟩, mirrors.grow mirrors.bound (Nat.le_refl _)⟩
  | note notice => exact stays rfl (mirrors_note mirrors notice)
  | newScheduler =>
    have added := mirrors_addScheduler mirrors
    refine ⟨m.schedulers.size + 1, Nat.le_succ_of_le mirrors.bound, ?_, added.grow ?_ ?_⟩
    · exact ⟨mirrors.size_schedulers, Nat.lt_succ_self _⟩
    · exact Nat.le_succ_of_le mirrors.bound
    · exact Nat.le_of_eq (by rw [Array.size_push])
  | clearTimeout scheduler id =>
    have cleared := mirrors_clearTimer mirrors scheduler id
    exact stays cleared.1 cleared.2
  | delay counter duration value =>
    have started := mirrors_startDelay mirrors counter duration value
    exact stays started.1 started.2
  | newDeferred =>
    have created := mirrors_newCell mirrors (.pending .program)
    exact stays created.1 created.2
  | newResolved value =>
    have created := mirrors_newCell mirrors (.resolved value n.now)
    rw [perform, mirrors.now]
    exact stays created.1 created.2
  | resolve cell value =>
    refine stays rfl ?_
    simp only [perform, opened]
    split
    · exact mirrors_resolve mirrors cell value
    · exact mirrors
  | dropResolver cell =>
    refine stays rfl ?_
    simp only [perform, opened]
    split
    · exact mirrors_abandon mirrors cell
    · exact mirrors
  | cloneHandle cell => exact stays rfl (mirrors_retain mirrors cell)
  | dropHandle cell => exact stays rfl (mirrors_release mirrors cell)

theorem mirrors_conclude (outcome : Outcome) {owner other : Owner σ} (owners : owner.Recounted like known other) :
    Mirrors like known (m.conclude outcome owner) (n.conclude outcome other) := by
  have idle : Mirrors like known { m with focus := .idle } { n with focus := .idle } :=
    { mirrors with focus := .idle }
  cases owners with
  | script rest => exact { idle with script := .ready (rest outcome) }
  | callback => exact idle
  | continuation source target =>
    cases outcome with
    | ok value => exact mirrors_release (mirrors_resolve idle target value) source
    | error failure => exact mirrors_release (mirrors_abandon idle target) source

theorem mirrors_execute {body same : Program σ} (bodies : body.Recounted like known same) {owner other : Owner σ}
    (owners : owner.Recounted like known other) :
    ∃ more, Mirrors like more (m.execute owner body) (n.execute other same) := by
  cases bodies with
  | finish outcome => exact ⟨known, mirrors_conclude mirrors outcome owners⟩
  | read rest =>
    exact ⟨known, mirrors_proceed mirrors (rest known (Nat.le_refl known) _ _ mirrors.memory) owners⟩
  | @write _ a b _ _ memory rest =>
    have written : Mirrors like known { m with memory := a } { n with memory := b } := { mirrors with memory }
    exact ⟨known, mirrors_proceed written rest owners⟩
  | perform request rest =>
    obtain ⟨more, less, alike, after⟩ := mirrors_perform mirrors request
    exact ⟨more, mirrors_proceed after (rest more less _ _ alike) (owners.mono less)⟩
  | define bodies rest =>
    have defined : Mirrors like known { m with functions := m.functions.push _ }
      { n with functions := n.functions.push _ } := { mirrors with functions := mirrors.functions.push bodies }
    rw [execute, execute, mirrors.functions.size_eq]
    exact ⟨known, mirrors_proceed defined (rest _) owners⟩
  | call function arguments rest =>
    obtain ⟨one, two⟩ | ⟨body, same, one, two, bodies⟩ := mirrors.functions.places function
    · simp only [execute, one, two]
      exact ⟨known, mirrors_proceed mirrors (rest _) owners⟩
    · simp only [execute, one, two, mirrors.now]
      exact ⟨known, mirrors_proceed (mirrors_enter mirrors _) ((bodies arguments).andThen rest) owners⟩
  | setTimeout scheduler duration bodies rest =>
    have started := mirrors_startTimer mirrors scheduler duration fun id => .callback scheduler id duration bodies
    simp only [execute, started.1]
    exact ⟨known, mirrors_proceed started.2 (rest _) owners⟩
  | attach counters source bodies rest =>
    have started := mirrors_startContinuation mirrors counters source bodies
    simp only [execute, started.1]
    exact ⟨known, mirrors_proceed started.2 (rest _) owners⟩

theorem mirrors_discard (id : TaskId) : Mirrors like known (m.discard id) (n.discard id) := by
  have ended := mirrors_setPhase mirrors id .ended
  unfold discard
  obtain ⟨one, two⟩ | ⟨task, other, one, two, alike⟩ := mirrors.tasks.places id
  · rw [one, two]
    exact mirrors
  · rw [one, two]
    dsimp only
    rw [alike.phase]
    split
    · exact mirrors
    · obtain ⟨job, _, _⟩ := task
      obtain ⟨same, _, _⟩ := other
      obtain ⟨jobs, _, _⟩ := alike
      cases jobs with
      | callback => exact ended
      | value scheduler timer duration target value => exact mirrors_abandon ended target
      | delay duration target value => exact mirrors_abandon ended target
      | continuation counters source target => exact mirrors_release (mirrors_abandon ended target) source

theorem mirrors_fire (id : TaskId) (scheduler : SchedulerId) (timer : TimerId) {duration : Nat}
    {effect other : TimerEffect σ}
    (jobs : Job.Recounted like known (.timer scheduler timer duration effect) (.timer scheduler timer duration other)) :
    Mirrors like known (m.fire id scheduler timer effect) (n.fire id scheduler timer other) := by
  have ended := mirrors_setPhase mirrors id .ended
  have fired := TimerTable.fire?_uncounted (ended.scheduler scheduler) timer
  unfold fire
  dsimp only
  rw [ended.now]
  obtain ⟨one, two⟩ | ⟨_, _, one, two, tables⟩ := rel_cases fired
  · rw [one, two]
    exact ended
  · rw [one, two]
    have noted := mirrors_note (mirrors_setScheduler ended scheduler tables) (.timerFired timer)
    have entered := mirrors_enter noted (.timer scheduler timer (n.setPhase id .ended).now)
    cases jobs with
    | callback _ _ _ bodies => exact mirrors_proceed entered bodies .callback
    | value _ _ _ target value => exact mirrors_resolve entered target value

omit mirrors [HostMemory σ] in
theorem uncounted_count (m : Machine σ) (scheduler : SchedulerId) :
    (m.setScheduler scheduler (m.toWorld.scheduler scheduler).countContinuation).schedulers.map
      TimerTable.uncounted = m.schedulers.map TimerTable.uncounted := by
  apply Array.ext_getElem?
  intro index
  rw [setScheduler, Array.getElem?_map, Array.getElem?_map, Array.getElem?_setIfInBounds]
  split
  next here =>
    subst here
    split
    next inside =>
      rw [World.scheduler, Array.getElem?_eq_getElem inside]
      rfl
    next outside => rw [Array.getElem?_eq_none (Nat.le_of_not_lt outside)]
  next => rfl

/-- The one step at which counters make a difference: it changes nothing but a count. -/
theorem mirrors_startBody (id : TaskId) (counter other : Option SchedulerId) (source target : CellId)
    {body same : Value → Program σ} (bodies : ∀ value, (body value).Recounted like known (same value))
    (value : Value) : Mirrors like known (m.startBody id counter source target body value)
      (n.startBody id other source target same value) := by
  have left {p q : Machine σ} (mirrors : Mirrors like known p q) (scheduler : SchedulerId) :
      Mirrors like known (p.setScheduler scheduler (p.toWorld.scheduler scheduler).countContinuation) q :=
    { mirrors with
      schedulers := (uncounted_count p scheduler).trans mirrors.schedulers
      bound := by
        change known ≤ (p.schedulers.setIfInBounds scheduler _).size
        rw [Array.size_setIfInBounds]
        exact mirrors.bound }
  have right {p q : Machine σ} (mirrors : Mirrors like known p q) (scheduler : SchedulerId) :
      Mirrors like known p (q.setScheduler scheduler (q.toWorld.scheduler scheduler).countContinuation) :=
    { mirrors with schedulers := mirrors.schedulers.trans (uncounted_count q scheduler).symm }
  have entered := mirrors_enter (mirrors_setPhase mirrors id .ended) (.continuation source target value n.now)
  unfold startBody
  dsimp only
  rw [mirrors.now]
  refine mirrors_proceed ?_ (bodies value) (.continuation source target)
  cases counter with
  | none =>
    cases other with
    | none => exact entered
    | some scheduler => exact right entered scheduler
  | some scheduler =>
    cases other with
    | none => exact left entered scheduler
    | some other => exact right (left entered scheduler) other

theorem mirrors_poll (id : TaskId) : Mirrors like known (m.poll id) (n.poll id) := by
  unfold poll
  obtain ⟨one, two⟩ | ⟨task, other, one, two, alike⟩ := mirrors.tasks.places id
  · rw [one, two]
    exact mirrors
  · rw [one, two]
    have deadline := alike.deadline?
    obtain ⟨job, phase, born⟩ := task
    obtain ⟨same, _, _⟩ := other
    obtain ⟨jobs, rfl, rfl⟩ := alike
    cases phase with
    | ended => exact mirrors
    | cancelled => exact mirrors_discard mirrors id
    | fresh | sleeping | waiting =>
      cases jobs with
      | callback scheduler timer duration bodies =>
        dsimp only
        rw [deadline, mirrors.now]
        split
        · exact mirrors_fire mirrors id scheduler timer (.callback scheduler timer duration bodies)
        · exact mirrors_setPhase mirrors id _
      | value scheduler timer duration target value =>
        dsimp only
        rw [mirrors.now]
        split
        · exact mirrors_fire mirrors id scheduler timer (.value scheduler timer duration target value)
        · exact mirrors_setPhase mirrors id _
      | delay duration target value =>
        dsimp only
        rw [mirrors.now]
        split
        · have ended := mirrors_setPhase mirrors id .ended
          exact mirrors_resolve (mirrors_enter ended (.delay target n.now)) target value
        · exact mirrors_setPhase mirrors id _
      | @continuation counter other counters source target _ _ bodies =>
        dsimp only
        rw [mirrors.cells]
        split
        · exact mirrors_startBody mirrors id counter other source target bodies _
        · exact mirrors_setPhase mirrors id .waiting
        · exact mirrors_discard mirrors id

theorem mirrors_answer? (alarm : Alarm) : m.answer? alarm = n.answer? alarm := by
  unfold answer?
  rw [mirrors.ready, mirrors.now, mirrors.cells]

theorem mirrors_resume : Mirrors like known m.resume n.resume := by
  have scripts := mirrors.script
  unfold resume
  generalize m.script = progress at scripts ⊢
  generalize n.script = other at scripts ⊢
  cases scripts with
  | ready | busy | ended => exact mirrors
  | waiting alarm rest =>
    dsimp only
    rw [mirrors_answer? mirrors]
    split
    · exact { mirrors with script := .ready (rest _) }
    · exact mirrors

theorem mirrors_advance {script other : Script σ} (scripts : script.Recounted like known other) :
    Mirrors like known (m.advance script) (n.advance other) := by
  cases scripts with
  | finish outcome => exact { mirrors with script := .ended outcome }
  | run bodies rest =>
    have busy : Mirrors like known { m with script := .busy } { n with script := .busy } :=
      { mirrors with script := .busy }
    exact mirrors_proceed busy bodies (.script rest)
  | @pause wait same next other waits rest =>
    have armed : m.arm (wait m.memory) = n.arm (same n.memory) := by
      rw [waits known (Nat.le_refl known) _ _ mirrors.memory]
      unfold arm
      rw [mirrors.now]
    rw [advance, advance, armed]
    apply mirrors_resume
    exact { mirrors with script := .waiting _ rest }

theorem mirrors_deadlines : m.deadlines = n.deadlines := by
  have sleepers : m.tasks.toList.filterMap Task.deadline? = n.tasks.toList.filterMap Task.deadline? := by
    have mapped := congrArg (List.filterMap id) (mirrors.tasks.map_eq fun _ _ alike => alike.deadline?)
    rw [List.filterMap_map, List.filterMap_map] at mapped
    exact mapped
  have scripts := mirrors.script
  unfold deadlines
  rw [sleepers]
  generalize m.script = progress at scripts ⊢
  generalize n.script = other at scripts ⊢
  cases scripts with
  | ready | busy | ended => rfl
  | waiting alarm => cases alarm <;> rfl

theorem mirrors_elapse (time : Nat) : Mirrors like known (m.elapse time) (n.elapse time) := by
  have woken : m.tasksWhere (fun task => task.deadline?.any (· ≤ time)) =
      n.tasksWhere fun task => task.deadline?.any (· ≤ time) :=
    tasksWhere_eq mirrors fun _ _ alike => congrArg (Option.any _) alike.deadline?
  unfold elapse
  rw [woken, mirrors.ready]
  apply mirrors_resume
  exact { mirrors with now := rfl, ready := rfl }

theorem mirrors_turn? : Option.Rel (Mirrors like known) m.turn? n.turn? := by
  have scripts := mirrors.script
  have answers := mirrors_answer? mirrors
  have resumed := mirrors_resume mirrors
  have moved : Option.Rel (Mirrors like known) (m.deadlines.min?.map m.elapse) (n.deadlines.min?.map n.elapse) := by
    rw [mirrors_deadlines mirrors]
    cases n.deadlines.min? with
    | none => exact .none
    | some time => exact .some (mirrors_elapse mirrors time)
  unfold turn?
  rw [mirrors.ready]
  cases n.ready with
  | cons id rest => exact .some (mirrors_poll (mirrors_queue mirrors rest) id)
  | nil =>
    generalize m.script = progress at scripts ⊢
    generalize n.script = other at scripts ⊢
    cases scripts with
    | ready | busy | ended => exact moved
    | waiting alarm =>
      dsimp only
      rw [answers]
      split
      · exact .some resumed
      · exact moved

/-- Two machines that are the same but for counts take the same step, or both none. -/
theorem mirrors_step? : Option.Rel (fun p q => ∃ more, Mirrors like more p q) m.step? n.step? := by
  have going := mirrors.focus
  have scripts := mirrors.script
  have turned := mirrors_turn? mirrors
  unfold step?
  generalize m.focus = focus at going ⊢
  generalize n.focus = other at going ⊢
  cases going with
  | program bodies owners => exact .some (mirrors_execute mirrors bodies owners)
  | idle =>
    have onward : Option.Rel (fun p q => ∃ more, Mirrors like more p q) m.turn? n.turn? :=
      rel_imp turned fun _ _ mirrors => ⟨known, mirrors⟩
    generalize m.script = progress at scripts ⊢
    generalize n.script = other at scripts ⊢
    cases scripts with
    | ready scripts => exact .some ⟨known, mirrors_advance mirrors scripts⟩
    | busy => exact .none
    | waiting | ended => exact onward

end Machine
end Loop
end RuleHost
