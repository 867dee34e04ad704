import RuleHost.Proofs.CountedEntries
import RuleHost.Proofs.RecountedSteps

/-! Whole runs of scripts that are the same but for who counts their continuations. They are the same in all
that can be seen but the counts, at every point, in whatever order tasks take their turns and however the loop
is left; and what a scheduler counts is the continuations that were entered and attached through it. -/

namespace RuleHost.Loop

variable {σ : Type}

inductive Call.Recounted : Call σ → Call σ → Prop where
  | timeout (scheduler : SchedulerId) (duration : Nat) (callback same : Program σ) (id : TimerId) :
      Recounted (.timeout scheduler duration callback id) (.timeout scheduler duration same id)
  | delay (duration : Nat) (value : Value) (handle : CellId) :
      Recounted (.delay duration value handle) (.delay duration value handle)
  | countedDelay (scheduler : SchedulerId) (duration : Nat) (value : Value) (id : TimerId) (handle : CellId) :
      Recounted (.countedDelay scheduler duration value id handle) (.countedDelay scheduler duration value id handle)
  | attach (counter other : Option SchedulerId) (source : CellId) (body same : Value → Program σ) (handle : CellId) :
      Recounted (.attach counter source body handle) (.attach other source same handle)
  | clear (scheduler : SchedulerId) (id : TimerId) (found : Bool) :
      Recounted (.clear scheduler id found) (.clear scheduler id found)
  | answer (handle : CellId) (outcome : Outcome) : Recounted (.answer handle outcome) (.answer handle outcome)

structure Record.Recounted (record other : Record σ) : Prop where
  time : record.time = other.time
  call : record.call.Recounted other.call

variable [HostMemory σ]

/-- All that can be seen of two machines is the same, but for the counts of continuations. -/
structure Agree (m n : Machine σ) : Prop where
  /-- The clock, the deferred values, the callbacks that were entered, the log and the timer tables. -/
  world : m.toWorld.uncounted = n.toWorld.uncounted
  host : HostMemory.host m.memory = HostMemory.host n.memory
  outcome : m.outcome? = n.outcome?

/-- Machines that are the same but for counts, with some number of schedulers that are known to both. -/
def Mirrored (like : Likeness σ) (m n : Machine σ) : Prop := ∃ known, Mirrors like known m n

variable {like : Likeness σ} {known : Nat} {m n : Machine σ}

namespace Machine

theorem mirrors_outcome? (mirrors : Mirrors like known m n) : m.outcome? = n.outcome? := by
  have scripts := mirrors.script
  unfold outcome?
  generalize m.script = progress at scripts ⊢
  generalize n.script = other at scripts ⊢
  cases scripts <;> rfl

theorem mirrored_agree (mirrored : Mirrored like m n) : Agree m n := by
  obtain ⟨known, mirrors⟩ := mirrored
  exact ⟨mirrors.uncounted, like.host mirrors.memory, mirrors_outcome? mirrors⟩

theorem mirrored_after (count : Nat) (mirrored : Mirrored like m n) :
    Option.Rel (Mirrored like) (after count m) (after count n) := by
  induction count generalizing m n with
  | zero => exact .some mirrored
  | succ count ih =>
    obtain ⟨known, mirrors⟩ := mirrored
    exact rel_bind (mirrors_step? mirrors) fun _ _ => ih

theorem mirrored_runScript (fuel : Nat) (mirrored : Mirrored like m n) :
    Option.Rel (Mirrored like) (runScript fuel m) (runScript fuel n) := by
  induction fuel generalizing m n with
  | zero => exact .none
  | succ fuel ih =>
    obtain ⟨known, mirrors⟩ := mirrored
    rw [runScript, runScript, mirrors_outcome? mirrors]
    split
    · exact .some ⟨known, mirrors⟩
    · exact rel_bind (mirrors_step? mirrors) fun _ _ => ih

theorem mirrored_settleAll (fuel : Nat) (mirrored : Mirrored like m n) :
    Option.Rel (Mirrored like) (settleAll fuel m) (settleAll fuel n) := by
  induction fuel generalizing m n with
  | zero => exact .none
  | succ fuel ih =>
    obtain ⟨known, mirrors⟩ := mirrored
    rw [settleAll, settleAll]
    obtain ⟨one, two⟩ | ⟨_, _, one, two, next⟩ := rel_cases (mirrors_step? mirrors)
    · rw [one, two]
      exact .some ⟨known, mirrors⟩
    · rw [one, two]
      exact ih next

theorem mirrored_tearDown (mirrored : Mirrored like m n) : Mirrored like m.tearDown n.tearDown := by
  obtain ⟨known, mirrors⟩ := mirrored
  have dropped (ids : List TaskId) {m n : Machine σ} (mirrors : Mirrors like known m n) :
      Mirrors like known (ids.foldl discard m) (ids.foldl discard n) := by
    induction ids generalizing m n with
    | nil => exact mirrors
    | cons id rest ih => exact ih (mirrors_discard mirrors id)
  unfold tearDown
  rw [mirrors.tasks.size_eq]
  exact ⟨known, { dropped (List.range n.tasks.size) mirrors with ready := rfl, attached := rfl }⟩

theorem mirrors_isDrained (mirrors : Mirrors like known m n) : m.isDrained = n.isDrained := by
  have phases := mirrors.tasks.map_eq fun _ _ alike => alike.phase
  have all (m : Machine σ) : m.isDrained = (m.tasks.toList.map Task.phase).all (· == .ended) := by
    rw [isDrained, ← Array.all_toList, List.all_map]
    rfl
  rw [all, all, phases]

theorem mirrored_drain (fuel : Nat) (mirrored : Mirrored like m n) :
    Option.Rel (Mirrored like) (drain fuel m) (drain fuel n) := by
  obtain ⟨known, mirrors⟩ := mirrored
  refine rel_bind (mirrored_settleAll fuel ⟨known, mirrors_note mirrors .draining⟩) fun p q settled => ?_
  obtain ⟨known, mirrors⟩ := settled
  rw [mirrors_isDrained mirrors]
  split
  · exact .some (mirrored_tearDown ⟨known, mirrors⟩)
  · exact .none

theorem mirrored_run (fuel : Nat) (mirrored : Mirrored like m n) :
    Option.Rel (Mirrored like) (run fuel m) (run fuel n) :=
  rel_bind (mirrored_runScript fuel mirrored) fun _ _ => mirrored_drain fuel

theorem mirrored_tryRun (fuel : Nat) (mirrored : Mirrored like m n) :
    Option.Rel (Mirrored like) (tryRun fuel m) (tryRun fuel n) := by
  refine rel_bind (mirrored_runScript fuel mirrored) fun p q ended => ?_
  obtain ⟨known, mirrors⟩ := ended
  rw [mirrors_outcome? mirrors]
  split
  · exact mirrored_drain fuel ⟨known, mirrors⟩
  · exact .some (mirrored_tearDown ⟨known, mirrors⟩)

theorem mirrored_runAndLeave (fuel : Nat) (mirrored : Mirrored like m n) :
    Option.Rel (Mirrored like) (runAndLeave fuel m) (runAndLeave fuel n) :=
  rel_map (mirrored_runScript fuel mirrored) fun _ _ => mirrored_tearDown

theorem mirrors_call? (mirrors : Mirrors like known m n) : Option.Rel Call.Recounted m.call? n.call? := by
  have told {α : Type} {reply answer : Option α} (same : reply = answer) {first second : α → Call σ}
      (calls : ∀ value, (first value).Recounted (second value)) :
      Option.Rel Call.Recounted (reply.map first) (answer.map second) := by
    subst same
    cases reply with
    | none => exact .none
    | some value => exact .some (calls value)
  have going := mirrors.focus
  unfold call?
  generalize m.focus = focus at going ⊢
  generalize n.focus = other at going ⊢
  cases going with
  | idle => exact .none
  | program bodies owners =>
    cases bodies with
    | read | write | define | call => exact .none
    | finish outcome =>
      cases owners with
      | script | callback => exact .none
      | continuation source target => exact .some (.answer target outcome)
    | setTimeout scheduler duration bodies rest =>
      have started := mirrors_startTimer mirrors scheduler duration fun id => .callback scheduler id duration bodies
      exact told started.1 fun id => .timeout scheduler duration _ _ id
    | attach counters source bodies rest =>
      have started := mirrors_startContinuation mirrors counters source bodies
      exact told started.1 fun handle => .attach _ _ source _ _ handle
    | perform request rest =>
      cases request with
      | look | note | newScheduler | newDeferred | newResolved | resolve | dropResolver | cloneHandle
      | dropHandle => exact .none
      | clearTimeout scheduler id =>
        have cleared := mirrors_clearTimer mirrors scheduler id
        dsimp only
        rw [cleared.1]
        exact .some (.clear scheduler id _)
      | delay counter duration value =>
        have started := mirrors_startDelay mirrors counter duration value
        cases counter with
        | none => exact told started.1 fun handle => .delay duration value handle
        | some scheduler =>
          have ids : (m.toWorld.scheduler scheduler).ids = (n.toWorld.scheduler scheduler).ids :=
            TimerTable.ids_uncounted (mirrors.scheduler scheduler)
          dsimp only
          rw [ids]
          exact told started.1 fun handle => .countedDelay scheduler duration value _ handle

theorem mirrors_noted (mirrors : Mirrors like known m n) :
    List.Forall₂ Record.Recounted (m.noted m.call?) (n.noted n.call?) := by
  obtain ⟨one, two⟩ | ⟨_, _, one, two, alike⟩ := rel_cases (mirrors_call? mirrors)
  · rw [one, two]
    exact .nil
  · rw [one, two]
    exact .cons ⟨mirrors.now, alike⟩ .nil

theorem mirrors_idle (mirrors : Mirrors like known m n) (idle : m.focus = .idle) : n.focus = .idle := by
  have going := mirrors.focus
  rw [idle] at going
  generalize n.focus = other at going ⊢
  cases going
  rfl

/-- Whichever way one loop goes on, the other can go on alike. -/
theorem Turn.mirrored {new : List (Record σ)} {next : Machine σ} (turn : Turn m new next)
    (mirrored : Mirrored like m n) :
    ∃ also last, Turn n also last ∧ Mirrored like next last ∧ List.Forall₂ Record.Recounted new also := by
  obtain ⟨known, mirrors⟩ := mirrored
  cases turn with
  | step taken =>
    obtain ⟨still, _⟩ | ⟨_, last, again, other, mirrored⟩ := rel_cases (mirrors_step? mirrors)
    · cases still.symm.trans taken
    · obtain rfl := Option.some.inj (again.symm.trans taken)
      exact ⟨_, last, .step other, mirrored, mirrors_noted mirrors⟩
  | note notice => exact ⟨[], _, .note notice, ⟨known, mirrors_note mirrors notice⟩, .nil⟩
  | reorder queue same =>
    exact ⟨[], _, .reorder queue (mirrors.ready ▸ same), ⟨known, mirrors_queue mirrors queue⟩, .nil⟩
  | wake idle => exact ⟨[], _, .wake (mirrors_idle mirrors idle), ⟨known, mirrors_resume mirrors⟩, .nil⟩

theorem Traced.mirrored {first last : Machine σ} {history : List (Record σ)} (run : Traced first history last)
    {second : Machine σ} (mirrored : Mirrored like first second) :
    ∃ also mirror, Traced second also mirror ∧ Mirrored like last mirror ∧
      List.Forall₂ Record.Recounted history also := by
  induction run with
  | start => exact ⟨[], second, .start, mirrored, .nil⟩
  | turn _ turn ih =>
    obtain ⟨before, middle, run, mirrored, records⟩ := ih
    obtain ⟨new, last, turn, mirrored, noted⟩ := turn.mirrored mirrored
    exact ⟨_, last, run.turn turn, mirrored, List.rel_append noted records⟩

theorem mirrored_start {script other : Script σ} (recounted : script.Recounted like 1 other) {a b : σ}
    (memory : like.alike 1 a b) (attached : Bool) :
    Mirrored like (start a script attached) (start b other attached) :=
  ⟨1,
    { now := rfl
      attached := rfl
      cells := rfl
      entries := rfl
      notices := rfl
      schedulers := rfl
      bound := Nat.le_refl 1
      ready := rfl
      memory
      functions := fun _ => .none
      tasks := fun _ => .none
      focus := .idle
      script := .ready recounted }⟩

/-- Two loops that nothing but the counts tells apart, at any moment and however they are left. -/
structure Indistinct (first second : Machine σ) : Prop where
  steps : ∀ count, Option.Rel Agree (after count first) (after count second)
  ran : ∀ fuel, Option.Rel Agree (run fuel first) (run fuel second)
  tried : ∀ fuel, Option.Rel Agree (tryRun fuel first) (tryRun fuel second)
  left : ∀ fuel, Option.Rel Agree (runAndLeave fuel first) (runAndLeave fuel second)
  /-- In whatever order tasks take their turns in one loop, they can do so in the other. -/
  turns : ∀ history m, Traced first history m → ∃ also n, Traced second also n ∧ Agree m n ∧
    List.Forall₂ Record.Recounted history also

theorem Indistinct.of_mirrored {first second : Machine σ} (mirrored : Mirrored like first second) :
    Indistinct first second := by
  have seen {a b : Option (Machine σ)} (rel : Option.Rel (Mirrored like) a b) : Option.Rel Agree a b :=
    rel_imp rel fun _ _ => mirrored_agree
  refine ⟨fun count => seen (mirrored_after count mirrored), fun fuel => seen (mirrored_run fuel mirrored),
    fun fuel => seen (mirrored_tryRun fuel mirrored), fun fuel => seen (mirrored_runAndLeave fuel mirrored), ?_⟩
  intro history m run
  obtain ⟨also, n, others, mirrored, records⟩ := run.mirrored mirrored
  exact ⟨also, n, others, mirrored_agree mirrored, records⟩

/-- Whoever counts the continuations of a script and of its callbacks, the script does the same: two loops with
scripts that are the same but for counters cannot be told apart, from either side, but by the counts. And what
a scheduler has counted, in all the loops that it lived through, is the continuations that were entered and
had been attached through it. -/
theorem counting_only_counts {script other : Script σ} (recounted : script.Recounted like 1 other) {a b : σ}
    (memory : like.alike 1 a b) (attached : Bool) :
    Indistinct (start a script attached) (start b other attached) ∧
    Indistinct (start b other attached) (start a script attached) ∧
    ∀ (history : List (Record σ)) (m : Machine σ), Life history m → ∀ scheduler,
      (m.toWorld.scheduler scheduler).stats.continuations =
        m.entries.countP (Entry.countedBy scheduler history) :=
  ⟨.of_mirrored (mirrored_start recounted memory attached),
    .of_mirrored (mirrored_start recounted.symm memory attached),
    fun _ _ life => life.counted⟩

/-- A script with two continuations of one value, the first of which attaches a third. -/
def threefold (first inner second : Option SchedulerId) : Script Host :=
  let done : Program Host := .finish (.ok .undefined)
  .run
    (.perform .newDeferred fun (cell : CellId) =>
      .attach first cell (fun _ => .attach inner cell (fun _ => done) fun _ => done) fun _ =>
        .attach second cell (fun _ => done) fun _ =>
          .perform (.resolve cell .undefined) fun _ => done)
    .finish

theorem recounted_threefold {first inner second one two three : Option SchedulerId}
    (firsts : Recounters 1 first one) (inners : Recounters 1 inner two) (seconds : Recounters 1 second three) :
    (threefold first inner second).Recounted (.same Host) 1 (threefold one two three) := by
  refine .run (.perform _ fun more less cell other same => ?_) fun outcome => .finish outcome
  obtain rfl : cell = other := same
  refine .attach (firsts.mono less) cell (fun _ => ?_) fun _ => ?_
  · exact .attach (inners.mono less) cell (fun _ => .finish _) fun _ => .finish _
  · refine .attach (seconds.mono less) cell (fun _ => .finish _) fun _ => ?_
    exact .perform _ fun _ _ _ _ _ => .finish _

/-- Three continuations run either way. One of them is counted, or two of them are. -/
theorem counting_only_counts_threefold :
    (threefold none (some 0) none).Recounted (.same Host) 1 (threefold (some 0) none (some 0)) ∧
    Indistinct (start {} (threefold none (some 0) none)) (start {} (threefold (some 0) none (some 0))) ∧
    ∃ m n, after 14 (start {} (threefold none (some 0) none)) = some m ∧
      after 14 (start {} (threefold (some 0) none (some 0))) = some n ∧
      m.entries.length = 3 ∧ (m.toWorld.scheduler 0).stats.continuations = 1 ∧
        (n.toWorld.scheduler 0).stats.continuations = 2 := by
  have counts : Recounters 1 none (some 0) := .inr ⟨by decide, by decide⟩
  have recounted := recounted_threefold counts counts.symm counts
  have alike : (Likeness.same Host).alike 1 {} {} := rfl
  exact ⟨recounted, (counting_only_counts recounted alike true).1, _, _, rfl, rfl, rfl, rfl, rfl⟩

end Machine
end RuleHost.Loop
