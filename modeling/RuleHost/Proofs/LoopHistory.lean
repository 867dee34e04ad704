import RuleHost.Loop.Run

/-! The calls that the programs of a loop make, each with its reply, and the ways in which a loop goes
on. A history is a proof view of a run: the machine itself keeps its tasks and the callbacks that were
entered, but not the calls. Every order in which ready tasks and the script can take turns is a run. -/

namespace RuleHost.Loop

/-- A call of a program, with what the loop replied, or the outcome of a continuation. A call that was
refused is not listed. -/
inductive Call (σ : Type) where
  | timeout (scheduler : SchedulerId) (duration : Nat) (callback : Program σ) (id : TimerId)
  | delay (duration : Nat) (value : Value) (handle : CellId)
  /-- A delay that is a timer of a scheduler. The program is not told the number of the timer. -/
  | countedDelay (scheduler : SchedulerId) (duration : Nat) (value : Value) (id : TimerId)
      (handle : CellId)
  | attach (counter : Option SchedulerId) (source : CellId) (body : Value → Program σ)
      (handle : CellId)
  | clear (scheduler : SchedulerId) (id : TimerId) (found : Bool)
  | answer (handle : CellId) (outcome : Outcome)

/-- A call and the time at which it was made. -/
structure Record (σ : Type) where
  time : Nat
  call : Call σ

namespace World

def state? (w : World) (cell : CellId) : Option CellState := (w.cells[cell]?).map Cell.state

end World

namespace Machine

variable {σ : Type}

def call? (m : Machine σ) : Option (Call σ) :=
  match m.focus with
  | .program (.setTimeout scheduler duration callback _) _ =>
    (m.startTimer scheduler duration (.run callback)).1.map (.timeout scheduler duration callback)
  | .program (.perform (.delay none duration value) _) _ =>
    (m.startDelay none duration value).1.map (.delay duration value)
  | .program (.perform (.delay (some scheduler) duration value) _) _ =>
    (m.startDelay (some scheduler) duration value).1.map
      (.countedDelay scheduler duration value (m.toWorld.scheduler scheduler).ids.issue.1)
  | .program (.perform (.clearTimeout scheduler id) _) _ =>
    some (.clear scheduler id (m.clearTimer scheduler id).1)
  | .program (.attach counter source body _) _ =>
    (m.startContinuation counter source body).1.map (.attach counter source body)
  | .program (.finish outcome) (.continuation _ target) => some (.answer target outcome)
  | _ => none

def noted (m : Machine σ) (call : Option (Call σ)) : List (Record σ) :=
  (call.map (Record.mk m.now)).toList

/-- One way in which a loop goes on, with what it adds to the history. Apart from the steps of the
machine, the log may be told something, ready tasks may change places, and the script may be looked at
at any time: what holds of all runs holds whatever the order of turns. -/
inductive Turn (m : Machine σ) : List (Record σ) → Machine σ → Prop where
  | step {next : Machine σ} (taken : m.step? = some next) : Turn m (m.noted m.call?) next
  | note (notice : Notice) : Turn m [] (m.note notice)
  | reorder (queue : List TaskId) (same : m.ready.Perm queue) : Turn m [] { m with ready := queue }
  | wake (idle : m.focus = .idle) : Turn m [] m.resume

/-- The runs of a loop from a first machine on, with their histories, newest first. -/
inductive Traced (first : Machine σ) : List (Record σ) → Machine σ → Prop where
  | start : Traced first [] first
  | turn {history : List (Record σ)} {m : Machine σ} {new : List (Record σ)} {next : Machine σ}
      (run : Traced first history m) (turn : Turn m new next) : Traced first (new ++ history) next

/-- The life of the schedulers of a host. A loop may be left at any time, with tasks and timers in it,
and later programs may run in another loop or in none. -/
inductive Life : List (Record σ) → Machine σ → Prop where
  | start (memory : σ) (script : Script σ) (attached : Bool) : Life [] (start memory script attached)
  | turn {history : List (Record σ)} {m : Machine σ} {new : List (Record σ)} {next : Machine σ}
      (life : Life history m) (turn : Turn m new next) : Life (new ++ history) next
  | leave {history : List (Record σ)} {m : Machine σ} (life : Life history m)
      (idle : m.focus = .idle) : Life history m.tearDown
  | enter {history : List (Record σ)} {m : Machine σ} (life : Life history m)
      (idle : m.focus = .idle) (script : Script σ) (attached : Bool) :
      Life history { m with script := .ready script, attached }

theorem Traced.trans {first middle last : Machine σ} {earlier later : List (Record σ)}
    (before : Traced first earlier middle) (after : Traced middle later last) :
    Traced first (later ++ earlier) last := by
  induction after with
  | start => exact before
  | turn _ turn ih => rw [List.append_assoc]; exact ih.turn turn

theorem Life.traced {m last : Machine σ} {earlier later : List (Record σ)} (life : Life earlier m)
    (run : Traced m later last) : Life (later ++ earlier) last := by
  induction run with
  | start => exact life
  | turn _ turn ih => rw [List.append_assoc]; exact ih.turn turn

def after : Nat → Machine σ → Option (Machine σ)
  | 0, m => some m
  | count + 1, m => m.step?.bind (after count)

theorem after_traced {count : Nat} {m n : Machine σ} (steps : after count m = some n) :
    ∃ history, Traced m history n := by
  induction count generalizing m with
  | zero => cases steps; exact ⟨[], .start⟩
  | succ count ih =>
    obtain ⟨next, taken, rest⟩ := Option.bind_eq_some_iff.mp steps
    obtain ⟨history, run⟩ := ih rest
    exact ⟨_, (Traced.start.turn (.step taken)).trans run⟩

/-- The body of a script takes as many steps as it needs, and no more. -/
theorem runScript_after {fuel : Nat} {m last : Machine σ} (body : runScript fuel m = some last) :
    last.outcome?.isSome ∧ ∃ count, after count m = some last ∧
      ∀ earlier < count, ∃ n, after earlier m = some n ∧ n.outcome? = none := by
  induction fuel generalizing m with
  | zero => cases body
  | succ fuel ih =>
    rw [runScript] at body
    split at body
    next done =>
      cases body
      exact ⟨done, 0, rfl, fun _ less => absurd less (Nat.not_lt_zero _)⟩
    next running =>
      obtain ⟨next, taken, rest⟩ := Option.bind_eq_some_iff.mp body
      obtain ⟨done, count, steps, going⟩ := ih rest
      refine ⟨done, count + 1, by rw [after, taken, Option.bind_some, steps], fun earlier less => ?_⟩
      cases earlier with
      | zero => exact ⟨m, rfl, by simpa using running⟩
      | succ earlier =>
        rw [after, taken, Option.bind_some]
        exact going earlier (Nat.lt_of_succ_lt_succ less)

theorem settleAll_after {fuel : Nat} {m last : Machine σ} (settled : settleAll fuel m = some last) :
    last.step? = none ∧ ∃ count, after count m = some last := by
  induction fuel generalizing m with
  | zero => cases settled
  | succ fuel ih =>
    rw [settleAll] at settled
    split at settled
    next still => cases settled; exact ⟨still, 0, rfl⟩
    next next taken =>
      obtain ⟨still, count, steps⟩ := ih settled
      exact ⟨still, count + 1, by rw [after, taken, Option.bind_some, steps]⟩

/-- A script that ends was run by turns of the loop. -/
theorem runScript_traced {fuel : Nat} {m last : Machine σ} (ended : runScript fuel m = some last) :
    (∃ history, Traced m history last) ∧ last.outcome?.isSome := by
  obtain ⟨done, _, steps, _⟩ := runScript_after ended
  exact ⟨after_traced steps, done⟩

theorem settleAll_traced {fuel : Nat} {m last : Machine σ} (settled : settleAll fuel m = some last) :
    (∃ history, Traced m history last) ∧ last.step? = none := by
  obtain ⟨still, _, steps⟩ := settleAll_after settled
  exact ⟨after_traced steps, still⟩

/-- The loop went on until nothing was left to do and every task had ended, and was taken away then. -/
structure Finished (first : Machine σ) (history : List (Record σ)) (last final : Machine σ) : Prop where
  run : Traced first history last
  still : last.step? = none
  drained : last.isDrained = true
  left : final = last.tearDown

theorem run_finished {fuel : Nat} {m final : Machine σ} (returned : run fuel m = some final) :
    ∃ history last, Finished m history last final := by
  obtain ⟨ended, scripted, rest⟩ := Option.bind_eq_some_iff.mp returned
  obtain ⟨⟨before, body⟩, _⟩ := runScript_traced scripted
  obtain ⟨last, settled, taken⟩ := Option.bind_eq_some_iff.mp rest
  obtain ⟨⟨after, tail⟩, still⟩ := settleAll_traced settled
  have whole := (body.turn (.note .draining)).trans tail
  split at taken
  next done => cases taken; exact ⟨_, last, whole, still, done, rfl⟩
  next => cases taken

end Machine
end RuleHost.Loop
