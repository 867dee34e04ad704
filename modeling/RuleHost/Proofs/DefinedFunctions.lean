import RuleHost.Proofs.LoopTeardown
import RuleHost.Proofs.ProgramRuns

/-! The functions of a loop. A definition adds one behind those that are there, so its number is its own, and no
turn of the loop changes a function or takes it away. -/

namespace RuleHost.Loop.Machine

variable {σ : Type} {m n : Machine σ}

/-- The function that the next step defines, if it defines one. -/
def definition? (m : Machine σ) : Option (List Value → Program σ) :=
  match m.focus with
  | .program (.define body _) _ => some body
  | _ => none

def defined? (m : Machine σ) : Option FunctionId := m.definition?.map fun _ => m.functions.size

theorem functions_settle (m : Machine σ) (cell : CellId) (state : CellState) :
    (m.settle cell state).functions = m.functions := (settle_steady m cell state).functions

theorem functions_conclude (m : Machine σ) (outcome : Outcome) (owner : Owner σ) :
    (m.conclude outcome owner).functions = m.functions := by
  cases owner with
  | script | callback => rfl
  | continuation source target => cases outcome <;> exact functions_settle _ target _

theorem functions_resume (m : Machine σ) : m.resume.functions = m.functions := by
  unfold resume
  split
  · split <;> rfl
  · rfl

theorem functions_advance (m : Machine σ) (script : Script σ) : (m.advance script).functions = m.functions := by
  cases script with
  | finish | run => rfl
  | pause => exact functions_resume _

theorem functions_discard (m : Machine σ) (id : TaskId) : (m.discard id).functions = m.functions := by
  obtain ⟨_, _, _, same⟩ := discard_frame m id
  rw [same]

theorem functions_fire (m : Machine σ) (id : TaskId) (scheduler : SchedulerId) (timer : TimerId)
    (effect : TimerEffect σ) : (m.fire id scheduler timer effect).functions = m.functions := by
  simp only [fire]
  split
  next => rfl
  next =>
    cases effect with
    | run => rfl
    | resolve target value => exact functions_settle _ target _

theorem functions_poll (m : Machine σ) (id : TaskId) : (m.poll id).functions = m.functions := by
  unfold poll
  split
  next => rfl
  next =>
    split
    next => rfl
    next => exact functions_discard m id
    next =>
      split
      next scheduler timer _ effect _ =>
        dsimp only
        split
        next => exact functions_fire m id scheduler timer effect
        next => rfl
      next =>
        dsimp only
        split
        next => exact functions_settle _ _ _
        next => rfl
      next counter _ _ _ _ =>
        split
        next => cases counter <;> rfl
        next => rfl
        next => exact functions_discard m id

theorem functions_turn (taken : m.turn? = some n) : n.functions = m.functions := by
  have elapsed {time : Nat} : (m.elapse time).functions = m.functions := functions_resume _
  have moved (taken : m.deadlines.min?.map m.elapse = some n) : n.functions = m.functions := by
    obtain ⟨time, _, rfl⟩ := Option.map_eq_some_iff.mp taken
    exact elapsed
  unfold turn? at taken
  split at taken
  next id rest _ => cases taken; exact functions_poll _ id
  next =>
    split at taken
    next =>
      split at taken
      next => cases taken; exact functions_resume m
      next => exact moved taken
    next => exact moved taken

theorem functions_execute {body : Program σ} {owner : Owner σ} (running : m.focus = .program body owner) :
    (m.execute owner body).functions = m.functions ++ m.definition?.toArray := by
  unfold definition?
  rw [running]
  cases body with
  | define function next => exact Array.push_eq_append
  | finish outcome => exact (functions_conclude m outcome owner).trans Array.append_empty.symm
  | read | write => exact Array.append_empty.symm
  | perform request next => exact (perform_steady m request).functions.trans Array.append_empty.symm
  | call function arguments next =>
    simp only [execute]
    split <;> exact Array.append_empty.symm
  | setTimeout scheduler duration callback next =>
    exact (startTimer_steady m scheduler duration (.run callback)).functions.trans Array.append_empty.symm
  | attach counter source body next =>
    exact (startContinuation_steady m counter source body).functions.trans Array.append_empty.symm

theorem functions_step (taken : m.step? = some n) : n.functions = m.functions ++ m.definition?.toArray := by
  unfold step? at taken
  split at taken
  next running =>
    cases taken
    exact functions_execute running
  next idle =>
    have nothing : m.definition? = none := by rw [definition?, idle]
    rw [nothing, Option.toArray_none, Array.append_empty]
    split at taken
    next script _ => cases taken; exact functions_advance m script
    next => cases taken
    next => exact functions_turn taken

theorem Turn.functions {new : List (Record σ)} (turn : Turn m new n) :
    ∃ defined, n.functions = m.functions ++ defined := by
  cases turn with
  | step taken => exact ⟨_, functions_step taken⟩
  | note | reorder => exact ⟨#[], Array.append_empty.symm⟩
  | wake => exact ⟨#[], (functions_resume m).trans Array.append_empty.symm⟩

/-- A function keeps its number in every run. -/
theorem Traced.functions {history : List (Record σ)} (run : Traced m history n) :
    ∃ defined, n.functions = m.functions ++ defined := by
  induction run with
  | start => exact ⟨#[], Array.append_empty.symm⟩
  | turn _ turn ih =>
    obtain ⟨earlier, grown⟩ := ih
    obtain ⟨later, more⟩ := turn.functions
    exact ⟨earlier ++ later, by rw [more, grown, Array.append_assoc]⟩

theorem defined?_eq_some_iff {f : FunctionId} :
    m.defined? = some f ↔ m.definition?.isSome = true ∧ f = m.functions.size := by
  rw [defined?, Option.map_eq_some_iff, Option.isSome_iff_exists]
  simp [eq_comm]

/-- A later definition has a greater number, whatever the order of turns. -/
theorem defined_lt {next : Machine σ} {history : List (Record σ)} {f g : FunctionId} (defines : m.defined? = some f)
    (taken : m.step? = some next) (run : Traced next history n) (again : n.defined? = some g) : f < g := by
  obtain ⟨some, rfl⟩ := defined?_eq_some_iff.mp defines
  obtain ⟨_, rfl⟩ := defined?_eq_some_iff.mp again
  obtain ⟨body, present⟩ := Option.isSome_iff_exists.mp some
  obtain ⟨later, grown⟩ := run.functions
  rw [grown, functions_step taken, present, Option.toArray_some, Array.size_append, Array.size_append]
  exact Nat.lt_of_lt_of_le (Nat.lt_succ_self _) (Nat.le_add_right _ _)

/-- Steps of one run that define functions give them one number just if they are one step. -/
theorem defined_inj {a b : Machine σ} {i j : Nat} {f g : FunctionId} (first : after i m = some a)
    (second : after j m = some b) (defines : a.defined? = some f) (again : b.defined? = some g) :
    f = g ↔ i = j := by
  have before {i j : Nat} {a b : Machine σ} {f g : FunctionId} (first : after i m = some a)
      (second : after j m = some b) (defines : a.defined? = some f) (again : b.defined? = some g) (less : i < j) :
      f < g := by
    obtain ⟨more, rfl⟩ := Nat.exists_eq_add_of_lt less
    rw [Nat.add_assoc, after_add first] at second
    obtain ⟨next, taken, rest⟩ := Option.bind_eq_some_iff.mp second
    obtain ⟨history, run⟩ := after_traced rest
    exact defined_lt defines taken run again
  constructor
  · intro same
    rcases Nat.lt_trichotomy i j with less | equal | greater
    · exact absurd same (Nat.ne_of_lt (before first second defines again less))
    · exact equal
    · exact absurd same.symm (Nat.ne_of_lt (before second first again defines greater))
  · rintro rfl
    cases first.symm.trans second
    exact Option.some.inj (defines.symm.trans again)

end RuleHost.Loop.Machine
