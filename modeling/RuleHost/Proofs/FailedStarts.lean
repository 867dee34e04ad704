import RuleHost.Proofs.TimerFates

/-! What is left of a start that fails because no loop runs. A continuation, and a delay that no scheduler
counts, leave everything as it was. A timer and a counted delay have used up a number by then: no timer ever had
it, and none will, and yet it counts as that of a finished one. -/

namespace RuleHost.Loop.Machine

variable {σ : Type}

/-- Numbers are not taken back. -/
theorem Move.ids_next_le {m n : Machine σ} {call : Option (Call σ)} (move : Move m call n)
    (scheduler : SchedulerId) :
    (m.toWorld.scheduler scheduler).ids.next ≤ (n.toWorld.scheduler scheduler).ids.next := by
  have same {n : Machine σ} (tables : n.schedulers = m.schedulers) :
      (m.toWorld.scheduler scheduler).ids.next ≤ (n.toWorld.scheduler scheduler).ids.next := by
    simp only [World.scheduler, tables, Nat.le_refl]
  have changed {n : Machine σ} {other : SchedulerId} {table : TimerTable} (known : other < m.schedulers.size)
      (tables : n.schedulers = (m.setScheduler other table).schedulers)
      (grown : (m.toWorld.scheduler other).ids.next ≤ table.ids.next) :
      (m.toWorld.scheduler scheduler).ids.next ≤ (n.toWorld.scheduler scheduler).ids.next := by
    rw [scheduler_of_tables known tables]
    split
    next equal => exact equal ▸ grown
    next => exact Nat.le_refl _
  have cleared {id : TimerId} {task : TaskId} {table next : TimerTable} (held : table.clear? id = some (task, next)) :
      table.ids.next ≤ next.ids.next := by
    obtain ⟨_, _, rest⟩ := Option.map_eq_some_iff.mp held
    cases rest
    exact Nat.le_refl _
  have fired {id : TimerId} {table next : TimerTable} (taken : table.fire? id = some next) :
      table.ids.next ≤ next.ids.next := by
    obtain ⟨_, rest⟩ := Option.ite_none_right_eq_some.mp taken
    cases rest
    exact Nat.le_refl _
  cases move with
  | quiet | function | delay | attach | refuse | create | skip | sleep | stale | wait | drop | elapse | startBody =>
    exact same rfl
  | settle | conclude | finishDelay | dropOwing => exact same (schedulers_settle _ _ _)
  | scheduler => exact Nat.le_of_eq (congrArg (fun table => table.ids.next) (scheduler_push _ _).symm)
  | reserve other known => exact changed known rfl (Nat.le_succ _)
  | timeout other duration callback known => exact changed known rfl (Nat.le_succ _)
  | countedDelay other duration value known => exact changed known rfl (Nat.le_succ _)
  | clear other id task table held =>
    exact changed (known_of_clear held) (schedulers_cancel _ _) (cleared held)
  | clearGone other id task table held => exact changed (known_of_clear held) rfl (cleared held)
  | fireCallback id rest task other timer duration callback table awake job due taken =>
    exact changed (known_of_fire taken) rfl (fired taken)
  | fireDelay id rest task other timer duration target value table awake job due taken =>
    exact changed (known_of_fire taken) (schedulers_settle _ _ _) (fired taken)
  | startCounted id rest task other =>
    by_cases known : other < m.schedulers.size
    · exact changed known rfl (Nat.le_refl _)
    · exact same (congrArg (fun w : Machine σ => w.schedulers) (setScheduler_unknown known
        (m.toWorld.scheduler other).countContinuation) :)

/-- A number that a scheduler used up and gave to no timer. -/
structure Wasted (scheduler : SchedulerId) (id : TimerId) (history : List (Record σ)) (m : Machine σ) : Prop where
  used : (m.toWorld.scheduler scheduler).ids.issued id = true
  never : id ∉ issued scheduler history

variable {scheduler : SchedulerId} {id : TimerId} {history later : List (Record σ)} {m n : Machine σ}

theorem Move.issue {call : Call σ} (move : Move m (some call) n) (issues : call.issues? scheduler = some id) :
    id = (m.toWorld.scheduler scheduler).ids.issue.1 := by
  cases move with
  | timeout other | countedDelay other =>
    obtain ⟨rfl, given⟩ := Option.ite_none_right_eq_some.mp issues
    exact (Option.some.inj given).symm
  | delay | attach | refuse | clear | clearGone | conclude => cases issues

theorem Wasted.lasting (scheduler : SchedulerId) (id : TimerId) :
    Lasting (σ := σ) (fun _ _ => True) (Wasted scheduler id) where
  alike alike wasted := ⟨by simpa only [World.scheduler, alike.schedulers] using wasted.used, wasted.never⟩
  move := by
    intro history m n call _ move wasted
    obtain ⟨positive, below⟩ := TimerIds.issued_iff.mp wasted.used
    refine ⟨TimerIds.issued_iff.mpr ⟨positive, Nat.lt_of_lt_of_le below (move.ids_next_le scheduler)⟩, ?_⟩
    rw [issued, List.filterMap_append, List.mem_append]
    rintro (new | old)
    · obtain ⟨record, member, issues⟩ := List.mem_filterMap.mp new
      obtain ⟨made, rfl, rfl⟩ := Option.map_eq_some_iff.mp (Option.mem_toList.mp member)
      rw [move.issue issues] at below
      exact Nat.lt_irrefl _ below
    · exact wasted.never old
  leave _ _ wasted := ⟨by rw [scheduler_tearDown]; exact wasted.used, wasted.never⟩

/-- A wasted number is finished, though nothing fired and nothing was cleared under it. -/
structure Sham (scheduler : SchedulerId) (id : TimerId) (history : List (Record σ)) (m : Machine σ) : Prop where
  finished : (m.toWorld.scheduler scheduler).state? id = some .finished
  never : id ∉ issued scheduler history
  unfired : firings scheduler id m.entries = 0
  uncleared : clearings scheduler id history = 0

theorem Wasted.sham (wasted : Wasted scheduler id history m) (ledger : Ledger history m) :
    Sham scheduler id history m := by
  obtain ⟨absent, unfired, uncleared⟩ := (ledger scheduler).absent wasted.never
  refine ⟨?_, wasted.never, unfired, uncleared⟩
  exact (state?_eq_finished_iff wasted.used).mpr (Table.contains_eq_false_iff.mpr absent)

theorem Wasted.onward (wasted : Wasted scheduler id history m) (ledger : Ledger history m)
    (onward : Onward m later n) : Ledger (later ++ history) n ∧ Wasted scheduler id (later ++ history) n := by
  have lasting := Wasted.lasting (σ := σ) scheduler id
  induction onward with
  | start => exact ⟨ledger, wasted⟩
  | turn _ turn ih =>
    rw [List.append_assoc]
    exact ⟨Ledger.lasting.turn turn trivial ih.1, lasting.turn turn trivial ih.2⟩
  | leave _ idle ih => exact ⟨Ledger.lasting.leave trivial idle ih.1, lasting.leave trivial idle ih.2⟩
  | enter _ _ script attached ih =>
    exact ⟨Ledger.lasting.alike (alike_enter _ script attached) ih.1,
      lasting.alike (alike_enter _ script attached) ih.2⟩

/-- What a scheduler shows after the failed start of a timer. -/
structure UsedUp (scheduler : SchedulerId) (history : List (Record σ)) (m n : Machine σ) : Prop where
  stats : ∀ other, (n.toWorld.scheduler other).stats = (m.toWorld.scheduler other).stats
  pending : ∀ other, (n.toWorld.scheduler other).pending = (m.toWorld.scheduler other).pending
  states : ∀ other id, other ≠ scheduler ∨ id ≠ (m.toWorld.scheduler scheduler).ids.issue.1 →
    (n.toWorld.scheduler other).state? id = (m.toWorld.scheduler other).state? id
  rest : n = { m with schedulers := n.schedulers }
  /-- The one number that is used up was unknown before. It looks finished now and for ever. -/
  before : (m.toWorld.scheduler scheduler).state? (m.toWorld.scheduler scheduler).ids.issue.1 = none
  sham : ∀ later k, Onward n later k →
    Sham scheduler (m.toWorld.scheduler scheduler).ids.issue.1 (later ++ history) k

theorem state?_reserve {table : TimerTable} (other : id ≠ table.ids.issue.1) :
    table.reserve.state? id = table.state? id := by
  have same : table.reserve.ids.issued id = table.ids.issued id := by
    have apart : id.number ≠ table.ids.next := fun equal => other (congrArg TimerId.mk equal)
    rw [Bool.eq_iff_iff, TimerIds.issued_iff, TimerIds.issued_iff]
    simp only [TimerTable.reserve, TimerIds.issue]
    omega
  simp only [TimerTable.state?, same]
  rfl

/-- The number that a scheduler gives out next is unknown. -/
theorem state?_issue {table : TimerTable} {entries : List Entry} (books : Books scheduler table history entries) :
    table.state? table.ids.issue.1 = none := by
  have absent := Table.contains_eq_false_iff.mpr (books.absent books.fresh).1
  have unissued : table.ids.issued table.ids.issue.1 = false := by
    rw [Bool.eq_false_iff, ne_eq, TimerIds.issued_iff]
    exact fun both => Nat.lt_irrefl _ both.2
  rw [TimerTable.state?, absent, unissued]
  rfl

def reserved (m : Machine σ) (scheduler : SchedulerId) : Machine σ :=
  m.setScheduler scheduler (m.toWorld.scheduler scheduler).reserve

theorem view_reserved {α : Type} (view : TimerTable → α) (known : scheduler < m.schedulers.size)
    (other : SchedulerId)
    (same : other = scheduler → view (m.toWorld.scheduler other).reserve = view (m.toWorld.scheduler other)) :
    view ((m.reserved scheduler).toWorld.scheduler other) = view (m.toWorld.scheduler other) := by
  rw [reserved, scheduler_setScheduler m scheduler other _ known]
  split
  next here =>
    subst here
    exact same rfl
  next => rfl

theorem Ledger.wasted (ledger : Ledger history m) (known : scheduler < m.schedulers.size) :
    Wasted scheduler (m.toWorld.scheduler scheduler).ids.issue.1 history (m.reserved scheduler) := by
  refine ⟨?_, (ledger scheduler).fresh⟩
  rw [reserved, scheduler_setScheduler m scheduler scheduler _ known, if_pos rfl]
  exact TimerIds.issued_iff.mpr ⟨(ledger scheduler).started, Nat.lt_succ_self _⟩

theorem Ledger.usedUp (ledger : Ledger history m) (known : scheduler < m.schedulers.size) :
    UsedUp scheduler history m (m.reserved scheduler) where
  stats other := view_reserved TimerTable.stats known other fun _ => rfl
  pending other := view_reserved TimerTable.pending known other fun _ => rfl
  states other id differ := by
    refine view_reserved (fun table => table.state? id) known other fun here => ?_
    subst here
    exact state?_reserve (differ.resolve_left fun apart => apart rfl)
  rest := rfl
  before := state?_issue (ledger scheduler)
  sham later k onward := by
    have move : Move m none (m.reserved scheduler) := .reserve scheduler known
    have after : Ledger history (m.reserved scheduler) := Ledger.invariant.move trivial move ledger
    obtain ⟨lasts, still⟩ := (ledger.wasted known).onward after onward
    exact still.sham lasts

/-- Where no loop runs, a start fails. It changes nothing, but that the start of a timer, or of a delay that a
scheduler counts, uses up a number. -/
theorem failed_starts (life : Life history m) (detached : m.attached = false) :
    (∀ counter source body, m.startContinuation counter source body = (none, m)) ∧
      (∀ duration value, m.startDelay none duration value = (none, m)) ∧
      ∀ scheduler < m.schedulers.size, ∃ n, UsedUp scheduler history m n ∧
        (∀ duration effect, m.startTimer scheduler duration effect = (none, n)) ∧
        ∀ duration value, m.startDelay (some scheduler) duration value = (none, n) := by
  have refused (counter : Option SchedulerId) : m.hosts counter = false := by rw [hosts, detached, Bool.false_and]
  refine ⟨fun counter source body => ?_, fun duration value => ?_, fun scheduler known => ?_⟩
  · simp only [startContinuation, refused, Bool.false_and, Bool.false_eq_true, if_false]
  · simp only [startDelay, refused, Bool.false_eq_true, if_false]
  · refine ⟨_, life.ledger.usedUp known, fun duration effect => ?_, fun duration value => ?_⟩
    · exact startTimer_refused m scheduler duration effect (refused (some scheduler))
    · simp only [startDelay, refused, Bool.false_eq_true, if_false, reserved]

def stranding : Script Unit :=
  .run (.setTimeout 0 5 (.finish (.ok .undefined)) fun _ => .finish (.ok .undefined)) .finish

private def stranded : Machine Unit := ((runScript 60 (start () stranding)).getD (start () stranding)).tearDown

theorem failed_starts_stranded : ∃ (history : List (Record Unit)) (n : Machine Unit),
    Life history stranded ∧ stranded.attached = false ∧ 0 < stranded.schedulers.size ∧
      (stranded.toWorld.scheduler 0).state? ⟨1⟩ = some .pending ∧
      stranded.startDelay (some 0) 5 .null = (none, n) ∧ UsedUp 0 history stranded n ∧ Sham 0 ⟨2⟩ history n ∧
      (n.toWorld.scheduler 0).state? ⟨1⟩ = some .pending := by
  have scripted : runScript 60 (start () stranding) = some ((runScript 60 (start () stranding)).getD
    (start () stranding)) := rfl
  obtain ⟨⟨history, run⟩, _⟩ := runScript_traced scripted
  have life : Life (history ++ []) stranded := ((Life.start () stranding true).traced run).leave rfl
  have known : 0 < stranded.schedulers.size := by rw [stranded, schedulers_tearDown]; exact Nat.one_pos
  have pending : (stranded.toWorld.scheduler 0).state? ⟨1⟩ = some .pending := by
    rw [stranded, scheduler_tearDown]
    rfl
  have next : (stranded.toWorld.scheduler 0).ids.issue.1 = ⟨2⟩ := by
    rw [stranded, scheduler_tearDown]
    rfl
  obtain ⟨n, used, _, delay⟩ := (failed_starts life rfl).2.2 0 known
  have sham := used.sham [] n .start
  rw [next] at sham
  have kept := used.states 0 ⟨1⟩ (.inr fun same => by rw [next] at same; cases same)
  exact ⟨_, n, life, rfl, known, pending, delay 5 .null, used, sham, kept.trans pending⟩

def bare : Machine Unit := start () (.finish (.ok .undefined)) false

/-- A number that no timer has had is unknown, until the start of a timer fails; then it is finished. -/
theorem failed_start_seen :
    Life [] bare ∧ (bare.toWorld.scheduler 0).state? ⟨1⟩ = none ∧
      (bare.startTimer 0 5 (.run (.finish (.ok .undefined)))).1 = none ∧
      ((bare.startTimer 0 5 (.run (.finish (.ok .undefined)))).2.toWorld.scheduler 0).state? ⟨1⟩ = some .finished :=
  ⟨.start _ _ _, rfl, rfl, rfl⟩

end RuleHost.Loop.Machine
