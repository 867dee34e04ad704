import RuleHost.Loop.Act
import RuleHost.Proofs.LoopHistory

/-! What an act comes to in the loop that runs it: its result and the loop after it, whatever the program
goes on with and whoever it belongs to. -/

namespace RuleHost.Loop.Machine

variable {σ α β : Type}

theorem after_add {first middle : Machine σ} {count : Nat} (steps : after count first = some middle)
    (more : Nat) : after (count + more) first = after more middle := by
  induction count generalizing first with
  | zero =>
    cases steps
    rw [Nat.zero_add]
  | succ count ih =>
    obtain ⟨next, taken, left⟩ := Option.bind_eq_some_iff.mp steps
    rw [Nat.add_right_comm, after, taken, Option.bind_some]
    exact ih left

theorem step_proceed (m : Machine σ) (body : Program σ) (owner : Owner σ) :
    (m.proceed body owner).step? = some ((m.proceed body owner).execute owner body) := rfl

/-- A program that begins with the act comes to what follows it after so many steps, with this result and in
this machine. -/
def Returns (m : Machine σ) (act : Act σ α) (count : Nat) (result : α) (n : Machine σ) : Prop :=
  ∀ (next : α → Program σ) (owner : Owner σ),
    after count (m.proceed (act next) owner) = some (n.proceed (next result) owner)

def Yields (m : Machine σ) (act : Act σ α) (result : α) (n : Machine σ) : Prop :=
  ∃ count, m.Returns act count result n

/-- The act comes to its result after so many steps at most. -/
def Within (m : Machine σ) (act : Act σ α) (bound : Nat) (result : α) (n : Machine σ) : Prop :=
  ∃ count ≤ bound, m.Returns act count result n

section Within

variable {m n : Machine σ}

theorem Within.yields {act : Act σ α} {bound : Nat} {result : α} (within : m.Within act bound result n) :
    m.Yields act result n := by
  obtain ⟨count, _, steps⟩ := within
  exact ⟨count, steps⟩

theorem Within.mono {act : Act σ α} {bound limit : Nat} {result : α}
    (within : m.Within act bound result n) (less : bound ≤ limit) : m.Within act limit result n := by
  obtain ⟨count, few, steps⟩ := within
  exact ⟨count, Nat.le_trans few less, steps⟩

theorem Within.pure (m : Machine σ) (bound : Nat) (value : α) : m.Within (Pure.pure value) bound value m :=
  ⟨0, Nat.zero_le bound, fun _ _ => rfl⟩

/-- An act spends part of a bound, and what follows it the rest. -/
theorem Within.bind {last : Machine σ} {act : Act σ α} {rest : α → Act σ β} {spent bound : Nat} {value : α}
    {result : β} (first : m.Within act spent value n)
    (following : n.Within (rest value) (bound - spent) result last) (enough : spent ≤ bound) :
    m.Within (act >>= rest) bound result last := by
  obtain ⟨count, few, steps⟩ := first
  obtain ⟨more, fewer, further⟩ := following
  refine ⟨count + more, by omega, fun next owner => ?_⟩
  have before := steps (fun value => rest value next) owner
  exact (after_add before more).trans (further next owner)

theorem within_memory (m : Machine σ) : m.Within Act.memory 1 m.memory m :=
  ⟨1, Nat.le_refl 1, fun _ _ => rfl⟩

theorem within_modifyMemory (m : Machine σ) (change : σ → σ) :
    m.Within (Act.modifyMemory change) 2 () { m with memory := change m.memory } :=
  ⟨2, Nat.le_refl 2, fun _ _ => rfl⟩

theorem within_note (m : Machine σ) (notice : Notice) :
    m.Within (Act.note notice) 1 () (m.note notice) :=
  ⟨1, Nat.le_refl 1, fun _ _ => rfl⟩

theorem within_define (m : Machine σ) (body : List Value → Act σ Value) :
    m.Within (Act.define body) 1 m.functions.size
      { m with functions := m.functions.push fun arguments => (body arguments).program } :=
  ⟨1, Nat.le_refl 1, fun _ _ => rfl⟩

variable {ε : Type}

theorem Within.bindExcept {last : Machine σ} {act : ExceptT ε (Act σ) α} {rest : α → ExceptT ε (Act σ) β}
    {spent bound : Nat} {value : α} {result : Except ε β} (first : m.Within act.run spent (.ok value) n)
    (following : n.Within (rest value).run (bound - spent) result last)
    (enough : spent ≤ bound) : m.Within (act >>= rest).run bound result last := by
  have whole : m.Within (act.run >>= ExceptT.bindCont rest) bound result last := first.bind following enough
  exact whole

theorem Within.failExcept {act : ExceptT ε (Act σ) α} {rest : α → ExceptT ε (Act σ) β} {bound : Nat}
    {error : ε} (first : m.Within act.run bound (.error error) n) :
    m.Within (act >>= rest).run bound (.error error) n := by
  have whole : m.Within (act.run >>= ExceptT.bindCont rest) bound (.error error) n :=
    first.bind (.pure n _ _) (Nat.le_refl bound)
  exact whole

theorem Within.lift {act : Act σ α} {bound : Nat} {value : α} (within : m.Within act bound value n) :
    m.Within (ExceptT.lift act : ExceptT ε (Act σ) α).run bound (.ok value) n := by
  have whole : m.Within (act >>= fun value => Pure.pure (Except.ok value)) bound
      (Except.ok value : Except ε α) n :=
    within.bind (Within.pure n _ _) (Nat.le_refl bound)
  exact whole

theorem Within.orDetached {act : Act σ (Option α)} {bound : Nat} {value : α}
    (within : m.Within act bound (some value) n) : m.Within act.orDetached.run bound (.ok value) n :=
  within.lift.bindExcept (.pure n _ _) (Nat.le_refl bound)

theorem Yields.bindExcept {last : Machine σ} {act : ExceptT ε (Act σ) α} {rest : α → ExceptT ε (Act σ) β}
    {value : α} {result : Except ε β} (first : m.Yields act.run (.ok value) n)
    (following : n.Yields (rest value).run result last) : m.Yields (act >>= rest).run result last := by
  obtain ⟨count, steps⟩ := first
  obtain ⟨more, further⟩ := following
  have before : m.Within act.run count (.ok value) n := ⟨count, Nat.le_refl count, steps⟩
  have after : n.Within (rest value).run (count + more - count) result last := ⟨more, by omega, further⟩
  exact (before.bindExcept after (Nat.le_add_right count more)).yields

theorem Yields.failExcept {act : ExceptT ε (Act σ) α} {rest : α → ExceptT ε (Act σ) β} {error : ε}
    (first : m.Yields act.run (.error error) n) : m.Yields (act >>= rest).run (.error error) n := by
  obtain ⟨count, steps⟩ := first
  exact (Within.failExcept ⟨count, Nat.le_refl count, steps⟩).yields

end Within

def patient : Nat → Program σ
  | 0 => .finish (.ok .undefined)
  | count + 1 => .read fun _ => patient count

theorem patient_injective (memory : σ) {first second : Nat}
    (same : (patient first : Program σ) = patient second) : first = second := by
  induction first generalizing second with
  | zero => cases second <;> first | rfl | cases same
  | succ first ih =>
    cases second with
    | zero => cases same
    | succ second =>
      have after := congrFun (Program.read.inj same) memory
      rw [ih after]

theorem after_patient (m : Machine σ) (owner : Owner σ) (spent count : Nat) :
    after spent (m.proceed (patient (spent + count)) owner) = some (m.proceed (patient count) owner) := by
  induction spent with
  | zero => rw [Nat.zero_add]; rfl
  | succ spent ih =>
    rw [Nat.add_right_comm]
    exact ih

theorem proceed_injective {n k : Machine σ} {first second : Program σ} {owner : Owner σ}
    (same : n.proceed first owner = k.proceed second owner) :
    first = second ∧ k = { n with focus := k.focus } := by
  simp only [proceed, mk.injEq, Focus.program.injEq] at same
  obtain ⟨world, memory, functions, tasks, ready, ⟨programs, _⟩, script⟩ := same
  rw [world, memory, functions, tasks, ready, script]
  exact ⟨programs, rfl⟩

/-- What an act comes to, and when, is settled: a program that waits long enough after it tells two results
apart. -/
theorem Returns.unique {m n k : Machine σ} {act : Act σ α} {count more : Nat} {result other : α}
    (first : m.Returns act count result n) (second : m.Returns act more other k) (order : count ≤ more) :
    count = more ∧ result = other ∧ k = { n with focus := k.focus } := by
  classical
  obtain ⟨gap, rfl⟩ := Nat.exists_eq_add_of_le order
  let next : α → Program σ := fun given => if given = result then patient (gap + 1) else patient 0
  have early := first next .callback
  have late := second next .callback
  have waited : next result = patient (gap + 1) := if_pos rfl
  rw [after_add early gap, waited, after_patient] at late
  obtain ⟨programs, machines⟩ := proceed_injective (Option.some.inj late)
  by_cases same : other = result
  · rw [show next other = patient (gap + 1) from if_pos same] at programs
    have none := patient_injective m.memory programs
    exact ⟨by omega, same.symm, machines⟩
  · rw [show next other = patient 0 from if_neg same] at programs
    exact absurd (patient_injective m.memory programs) Nat.one_ne_zero

end RuleHost.Loop.Machine
