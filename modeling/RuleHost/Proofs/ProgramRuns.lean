import RuleHost.Host.Act
import RuleHost.Proofs.ActResults

/-! What a program does from its beginning to its end, told as a tree: a callback that is entered has done
all that it does before the program that called it goes on. A program that runs in the loop either ends,
after a run of this kind, or is still under way. -/

namespace RuleHost

namespace HostMemory

variable {σ : Type} [HostMemory σ]

def notifier (memory : σ) : Notifier := (host memory).services.notifier

end HostMemory

/-- The notifiers that come about by subscribing and unsubscribing. -/
inductive Notifier.Reachable : Notifier → Prop where
  | start : Reachable {}
  | subscribe {notifier : Notifier} (before : Reachable notifier) (thing : String)
      (callback : FunctionRef) : Reachable (notifier.subscribe thing callback).2
  | unsubscribe {notifier : Notifier} (before : Reachable notifier) (id : Nat) :
      Reachable (notifier.unsubscribe id).2

namespace Loop

/-- What a program does to the subscriptions, and the callbacks that it enters, each with what is done
inside it. -/
inductive Deed where
  | subscribed (thing : String) (callback : FunctionRef)
  | unsubscribed (id : Nat)
  | entered (function : FunctionId) (arguments : List Value) (inside : List Deed)

namespace Deed

mutual

def applied : Deed → Notifier → Notifier
  | .subscribed thing callback, notifier => (notifier.subscribe thing callback).2
  | .unsubscribed id, notifier => (notifier.unsubscribe id).2
  | .entered _ _ inside, notifier => allApplied inside notifier

def allApplied : List Deed → Notifier → Notifier
  | [], notifier => notifier
  | deed :: rest, notifier => allApplied rest (deed.applied notifier)

end

mutual

def entries (time : Nat) : Deed → List Entry
  | .subscribed _ _ => []
  | .unsubscribed _ => []
  | .entered function arguments inside => allEntries time inside ++ [.function function arguments time]

def allEntries (time : Nat) : List Deed → List Entry
  | [] => []
  | deed :: rest => allEntries time rest ++ deed.entries time

end

theorem allApplied_append (first rest : List Deed) (notifier : Notifier) :
    allApplied (first ++ rest) notifier = allApplied rest (allApplied first notifier) := by
  induction first generalizing notifier with
  | nil => rfl
  | cons deed first ih => exact ih (deed.applied notifier)

theorem allEntries_append (time : Nat) (first rest : List Deed) :
    allEntries time (first ++ rest) = allEntries time rest ++ allEntries time first := by
  induction first with
  | nil => exact (List.append_nil _).symm
  | cons deed first ih => rw [List.cons_append, allEntries, ih, allEntries, List.append_assoc]

end Deed

/-- One change of the subscriptions, with the deed that it is. -/
inductive Alters : Notifier → List Deed → Notifier → Prop where
  | kept (notifier : Notifier) : Alters notifier [] notifier
  | subscribed (notifier : Notifier) (thing : String) (callback : FunctionRef) :
      Alters notifier [.subscribed thing callback] (notifier.subscribe thing callback).2
  | unsubscribed {notifier : Notifier} {id : Nat} (live : notifier.listeners.contains id = true) :
      Alters notifier [.unsubscribed id] (notifier.unsubscribe id).2

theorem Alters.allApplied {before after : Notifier} {deeds : List Deed}
    (alters : Alters before deeds after) : after = Deed.allApplied deeds before := by
  cases alters <;> rfl

theorem Alters.allEntries {before after : Notifier} {deeds : List Deed}
    (alters : Alters before deeds after) (time : Nat) : Deed.allEntries time deeds = [] := by
  cases alters <;> rfl

theorem Alters.reachable {before after : Notifier} {deeds : List Deed}
    (alters : Alters before deeds after) (reachable : before.Reachable) : after.Reachable := by
  cases alters with
  | kept => exact reachable
  | subscribed => exact reachable.subscribe _ _
  | unsubscribed => exact reachable.unsubscribe _

variable {σ : Type}

theorem Program.andThen_assoc (program : Program σ) (first second : Outcome → Program σ) :
    (program.andThen first).andThen second =
      program.andThen fun outcome => (first outcome).andThen second := by
  induction program with
  | finish => rfl
  | read next ih => simp only [andThen, ih]
  | write memory next ih => simp only [andThen, ih]
  | perform request next ih => simp only [andThen, ih]
  | define body next _ ih => simp only [andThen, ih]
  | call function arguments next ih => simp only [andThen, ih]
  | setTimeout scheduler duration callback next _ ih => simp only [andThen, ih]
  | attach counter source body next _ ih => simp only [andThen, ih]

namespace Machine

structure Steady (m n : Machine σ) : Prop where
  memory : n.memory = m.memory
  functions : n.functions = m.functions
  entries : n.entries = m.entries
  now : n.now = m.now
  focus : n.focus = m.focus

section Replies

variable (m : Machine σ) (body : Program σ) (owner : Owner σ)

theorem settle_steady (cell : CellId) (state : CellState) : Steady m (m.settle cell state) := by
  unfold settle
  split <;> exact ⟨rfl, rfl, rfl, rfl, rfl⟩

theorem startTimer_steady (scheduler : SchedulerId) (duration : Nat) (effect : TimerEffect σ) :
    Steady m (m.startTimer scheduler duration effect).2 := by
  unfold startTimer
  dsimp only
  split <;> exact ⟨rfl, rfl, rfl, rfl, rfl⟩

theorem startContinuation_steady (counter : Option SchedulerId) (source : CellId)
    (next : Value → Program σ) : Steady m (m.startContinuation counter source next).2 := by
  unfold startContinuation
  split <;> exact ⟨rfl, rfl, rfl, rfl, rfl⟩

theorem startDelay_steady (counter : Option SchedulerId) (duration : Nat) (value : Value) :
    Steady m (m.startDelay counter duration value).2 := by
  unfold startDelay
  cases counter with
  | none => split <;> exact ⟨rfl, rfl, rfl, rfl, rfl⟩
  | some scheduler =>
    split
    next =>
      have timer := startTimer_steady (m.newCell (.pending .task)).2 scheduler duration
        (.resolve m.cells.size value)
      exact ⟨timer.memory, timer.functions, timer.entries, timer.now, timer.focus⟩
    next => exact ⟨rfl, rfl, rfl, rfl, rfl⟩

theorem clearTimer_steady (scheduler : SchedulerId) (id : TimerId) :
    Steady m (m.clearTimer scheduler id).2 := by
  unfold clearTimer
  split
  next => exact ⟨rfl, rfl, rfl, rfl, rfl⟩
  next =>
    dsimp only
    split
    next => exact ⟨rfl, rfl, rfl, rfl, rfl⟩
    next =>
      dsimp only
      split <;> exact ⟨rfl, rfl, rfl, rfl, rfl⟩

theorem perform_steady (request : Request) : Steady m (m.perform request).2 := by
  cases request with
  | clearTimeout scheduler id => exact clearTimer_steady m scheduler id
  | delay counter duration value => exact startDelay_steady m counter duration value
  | resolve cell value =>
    simp only [perform]
    split
    · exact settle_steady m cell _
    · exact ⟨rfl, rfl, rfl, rfl, rfl⟩
  | dropResolver cell =>
    simp only [perform]
    split
    · exact settle_steady m cell _
    · exact ⟨rfl, rfl, rfl, rfl, rfl⟩
  | look | note | newScheduler | newDeferred | newResolved | cloneHandle | dropHandle =>
    exact ⟨rfl, rfl, rfl, rfl, rfl⟩

theorem settle_proceed (cell : CellId) (state : CellState) :
    (m.proceed body owner).settle cell state = (m.settle cell state).proceed body owner := by
  have cells : (m.proceed body owner).cells = m.cells := rfl
  unfold settle
  rw [cells]
  cases (m.cells[cell]?).any Cell.isPending <;> rfl

theorem startTimer_proceed (scheduler : SchedulerId) (duration : Nat) (effect : TimerEffect σ) :
    (m.proceed body owner).startTimer scheduler duration effect =
      ((m.startTimer scheduler duration effect).1,
        (m.startTimer scheduler duration effect).2.proceed body owner) := by
  have hosts : (m.proceed body owner).hosts (some scheduler) = m.hosts (some scheduler) := rfl
  unfold startTimer
  simp only [hosts]
  cases m.hosts (some scheduler) <;> rfl

theorem startContinuation_proceed (counter : Option SchedulerId) (source : CellId)
    (next : Value → Program σ) :
    (m.proceed body owner).startContinuation counter source next =
      ((m.startContinuation counter source next).1,
        (m.startContinuation counter source next).2.proceed body owner) := by
  have hosts : (m.proceed body owner).hosts counter = m.hosts counter := rfl
  have cells : (m.proceed body owner).cells = m.cells := rfl
  unfold startContinuation
  rw [hosts, cells]
  cases m.hosts counter && source < m.cells.size <;> rfl

theorem startDelay_proceed (counter : Option SchedulerId) (duration : Nat) (value : Value) :
    (m.proceed body owner).startDelay counter duration value =
      ((m.startDelay counter duration value).1,
        (m.startDelay counter duration value).2.proceed body owner) := by
  have hosts : (m.proceed body owner).hosts counter = m.hosts counter := rfl
  unfold startDelay
  rw [hosts]
  cases counter with
  | none => cases m.hosts none <;> rfl
  | some scheduler =>
    cases m.hosts (some scheduler) with
    | false => rfl
    | true =>
      have timer := startTimer_proceed (m.newCell (.pending .task)).2 body owner scheduler duration
        (.resolve m.cells.size value)
      exact congrArg (Prod.mk _) (congrArg Prod.snd timer)

theorem clearTimer_proceed (scheduler : SchedulerId) (id : TimerId) :
    (m.proceed body owner).clearTimer scheduler id =
      ((m.clearTimer scheduler id).1, (m.clearTimer scheduler id).2.proceed body owner) := by
  have table : (m.proceed body owner).toWorld.scheduler scheduler = m.toWorld.scheduler scheduler := rfl
  have tasks : ∀ n : Machine σ, (n.proceed body owner).tasks = n.tasks := fun _ => rfl
  have ready : ∀ n : Machine σ, (n.proceed body owner).ready = n.ready := fun _ => rfl
  unfold clearTimer
  rw [table]
  cases (m.toWorld.scheduler scheduler).clear? id with
  | none => rfl
  | some found =>
    have noted : ((m.proceed body owner).setScheduler scheduler found.2).note (.timerCancelled id) =
      ((m.setScheduler scheduler found.2).note (.timerCancelled id)).proceed body owner := rfl
    dsimp only
    rw [noted]
    generalize (m.setScheduler scheduler found.2).note (.timerCancelled id) = cleared
    have dropped : (cleared.proceed body owner).setPhase found.1 .cancelled =
      (cleared.setPhase found.1 .cancelled).proceed body owner := rfl
    simp only [tasks, dropped, ready]
    cases (cleared.tasks[found.1]?).any fun task => task.phase == .ended with
    | true => rfl
    | false => cases (cleared.setPhase found.1 .cancelled).ready.contains found.1 <;> rfl

theorem perform_proceed (request : Request) :
    (m.proceed body owner).perform request =
      ((m.perform request).1, (m.perform request).2.proceed body owner) := by
  have cells : (m.proceed body owner).cells = m.cells := rfl
  cases request with
  | clearTimeout scheduler id => exact clearTimer_proceed m body owner scheduler id
  | delay counter duration value => exact startDelay_proceed m body owner counter duration value
  | resolve cell value =>
    simp only [perform, cells]
    cases (m.cells[cell]?).any Cell.isOpen with
    | true => exact congrArg (Prod.mk ()) (settle_proceed m body owner cell _)
    | false => rfl
  | dropResolver cell =>
    simp only [perform, cells]
    cases (m.cells[cell]?).any Cell.isOpen with
    | true => exact congrArg (Prod.mk ()) (settle_proceed m body owner cell _)
    | false => rfl
  | look | note | newScheduler | newDeferred | newResolved | cloneHandle | dropHandle => rfl

theorem within_perform (request : Request) :
    m.Within (Act.perform request) 1 (m.perform request).1 (m.perform request).2 := by
  refine ⟨1, Nat.le_refl 1, fun next owner => ?_⟩
  simp only [after, step_proceed, Act.perform, execute, perform_proceed]
  rfl

theorem within_attach (counter : Option SchedulerId) (source : CellId) (next : Value → Act σ Value) :
    m.Within (Act.attach counter source next) 1
      (m.startContinuation counter source fun value => (next value).program).1
      (m.startContinuation counter source fun value => (next value).program).2 := by
  refine ⟨1, Nat.le_refl 1, fun following owner => ?_⟩
  simp only [after, step_proceed, Act.attach, execute, startContinuation_proceed]
  rfl

end Replies

/-- After a number of steps a program stands at what is left of it, whatever follows it. -/
def Comes (m : Machine σ) (program : Program σ) (count : Nat) (n : Machine σ) (rest : Program σ) : Prop :=
  ∀ (next : Outcome → Program σ) (owner : Owner σ),
    after count (m.proceed (program.andThen next) owner) = some (n.proceed (rest.andThen next) owner)

def Unfinished (program : Program σ) : Prop := ∀ outcome, program ≠ .finish outcome

theorem Unfinished.andThen {program : Program σ} (unfinished : Unfinished program)
    (next : Outcome → Program σ) : Unfinished (program.andThen next) := by
  intro outcome
  cases program with
  | finish ended => exact absurd rfl (unfinished ended)
  | read | write | perform | define | call | setTimeout | attach => nofun

theorem Comes.trans {m middle n : Machine σ} {program between rest : Program σ} {count more : Nat}
    (first : Comes m program count middle between) (second : Comes middle between more n rest) :
    Comes m program (count + more) n rest :=
  fun next owner => (after_add (first next owner) more).trans (second next owner)

theorem comes_perform (m : Machine σ) (request : Request) (next : request.Reply → Program σ) :
    Comes m (.perform request next) 1 (m.perform request).2 (next (m.perform request).1) := by
  intro following owner
  simp only [after, step_proceed, Program.andThen, execute, perform_proceed]
  rfl

theorem comes_setTimeout (m : Machine σ) (scheduler : SchedulerId) (duration : Nat) (callback : Program σ)
    (next : Option TimerId → Program σ) :
    Comes m (.setTimeout scheduler duration callback next) 1
      (m.startTimer scheduler duration (.run callback)).2
      (next (m.startTimer scheduler duration (.run callback)).1) := by
  intro following owner
  simp only [after, step_proceed, Program.andThen, execute, startTimer_proceed]
  rfl

theorem comes_attach (m : Machine σ) (counter : Option SchedulerId) (source : CellId)
    (body : Value → Program σ) (next : Option CellId → Program σ) :
    Comes m (.attach counter source body next) 1 (m.startContinuation counter source body).2
      (next (m.startContinuation counter source body).1) := by
  intro following owner
  simp only [after, step_proceed, Program.andThen, execute, startContinuation_proceed]
  rfl

theorem Comes.missing {m : Machine σ} {function : FunctionId} {arguments : List Value}
    {next : Outcome → Program σ} (undefined : m.functions[function]? = none) :
    Comes m (.call function arguments next) 1 m (next (.ok .undefined)) := by
  intro following owner
  have absent : (m.proceed ((Program.call function arguments next).andThen following) owner).functions[
    function]? = none := undefined
  simp only [after, step_proceed, Option.bind_some, Program.andThen, execute] at absent ⊢
  rw [absent]
  rfl

theorem Comes.inside {m n : Machine σ} {function : FunctionId} {arguments : List Value}
    {next : Outcome → Program σ} {body : List Value → Program σ} {count : Nat} {rest : Program σ}
    (defined : m.functions[function]? = some body)
    (inner : Comes (m.enter (.function function arguments m.now)) (body arguments) count n rest) :
    Comes m (.call function arguments next) (1 + count) n (rest.andThen next) := by
  intro following owner
  have entered : after 1 (m.proceed ((Program.call function arguments next).andThen following) owner) =
      some ((m.enter (.function function arguments m.now)).proceed
        ((body arguments).andThen fun outcome => (next outcome).andThen following) owner) := by
    have found : (m.proceed ((Program.call function arguments next).andThen following) owner).functions[
      function]? = some body := defined
    simp only [after, step_proceed, Option.bind_some, Program.andThen, execute] at found ⊢
    rw [found]
    rfl
  rw [after_add entered, inner, Program.andThen_assoc]

end Machine

variable [HostMemory σ]

/-- A program that changes the subscriptions, if it does, by subscribing and unsubscribing, from this memory
on, as does all that it gives to the loop. The functions that it calls may leave any memory. -/
def Program.Honest : Program σ → σ → Prop
  | .finish _, _ => True
  | .read next, memory => (next memory).Honest memory
  | .write changed next, memory =>
    (∃ deeds, Alters (HostMemory.notifier memory) deeds (HostMemory.notifier changed)) ∧ next.Honest changed
  | .perform _ next, memory => ∀ reply, (next reply).Honest memory
  | .define body next, memory =>
    (∀ arguments memory, (body arguments).Honest memory) ∧ ∀ id, (next id).Honest memory
  | .call _ _ next, _ => ∀ outcome memory, (next outcome).Honest memory
  | .setTimeout _ _ callback next, memory =>
    (∀ memory, callback.Honest memory) ∧ ∀ id, (next id).Honest memory
  | .attach _ _ body next, memory =>
    (∀ value memory, (body value).Honest memory) ∧ ∀ cell, (next cell).Honest memory

namespace Machine

def notifier (m : Machine σ) : Notifier := HostMemory.notifier m.memory

/-- Whatever is called in the loop, it subscribes and unsubscribes, and so it was before. -/
structure Honest (m : Machine σ) : Prop where
  notifier : m.notifier.Reachable
  functions : ∀ (id : FunctionId) (body : List Value → Program σ), m.functions[id]? = some body →
    ∀ arguments memory, (body arguments).Honest memory

/-- A program runs from a machine to its outcome in another, and this is what it does. -/
inductive Runs : Machine σ → Program σ → List Deed → Outcome → Machine σ → Prop where
  | finish (m : Machine σ) (outcome : Outcome) : Runs m (.finish outcome) [] outcome m
  | read {m n : Machine σ} {next : σ → Program σ} {deeds : List Deed} {outcome : Outcome}
      (rest : Runs m (next m.memory) deeds outcome n) : Runs m (.read next) deeds outcome n
  | write {m n : Machine σ} {memory : σ} {next : Program σ} {mine deeds : List Deed} {outcome : Outcome}
      (alters : Alters m.notifier mine (HostMemory.notifier memory))
      (rest : Runs { m with memory } next deeds outcome n) :
      Runs m (.write memory next) (mine ++ deeds) outcome n
  | perform {m n : Machine σ} {request : Request} {next : request.Reply → Program σ} {deeds : List Deed}
      {outcome : Outcome} (rest : Runs (m.perform request).2 (next (m.perform request).1) deeds outcome n) :
      Runs m (.perform request next) deeds outcome n
  | define {m n : Machine σ} {body : List Value → Program σ} {next : FunctionId → Program σ}
      {deeds : List Deed} {outcome : Outcome}
      (rest : Runs { m with functions := m.functions.push body } (next m.functions.size) deeds outcome n) :
      Runs m (.define body next) deeds outcome n
  | call {m middle n : Machine σ} {function : FunctionId} {arguments : List Value}
      {next : Outcome → Program σ} {body : List Value → Program σ} {inside deeds : List Deed}
      {ended outcome : Outcome} (defined : m.functions[function]? = some body)
      (inner : Runs (m.enter (.function function arguments m.now)) (body arguments) inside ended middle)
      (rest : Runs middle (next ended) deeds outcome n) :
      Runs m (.call function arguments next) (.entered function arguments inside :: deeds) outcome n
  | missing {m n : Machine σ} {function : FunctionId} {arguments : List Value}
      {next : Outcome → Program σ} {deeds : List Deed} {outcome : Outcome}
      (undefined : m.functions[function]? = none) (rest : Runs m (next (.ok .undefined)) deeds outcome n) :
      Runs m (.call function arguments next) deeds outcome n
  | setTimeout {m n : Machine σ} {scheduler : SchedulerId} {duration : Nat} {callback : Program σ}
      {next : Option TimerId → Program σ} {deeds : List Deed} {outcome : Outcome}
      (rest : Runs (m.startTimer scheduler duration (.run callback)).2
        (next (m.startTimer scheduler duration (.run callback)).1) deeds outcome n) :
      Runs m (.setTimeout scheduler duration callback next) deeds outcome n
  | attach {m n : Machine σ} {counter : Option SchedulerId} {source : CellId} {body : Value → Program σ}
      {next : Option CellId → Program σ} {deeds : List Deed} {outcome : Outcome}
      (rest : Runs (m.startContinuation counter source body).2
        (next (m.startContinuation counter source body).1) deeds outcome n) :
      Runs m (.attach counter source body next) deeds outcome n

/-- What is left of deeds when they are done. -/
structure Leaves (m : Machine σ) (deeds : List Deed) (n : Machine σ) : Prop where
  now : n.now = m.now
  focus : n.focus = m.focus
  functions : ∀ (id : FunctionId) (body : List Value → Program σ),
    m.functions[id]? = some body → n.functions[id]? = some body
  notifier : n.notifier = Deed.allApplied deeds m.notifier
  entries : n.entries = Deed.allEntries m.now deeds ++ m.entries

namespace Leaves

variable {m middle n : Machine σ}

theorem refl (m : Machine σ) : Leaves m [] m := ⟨rfl, rfl, fun _ _ found => found, rfl, rfl⟩

theorem trans {first rest : List Deed} (before : Leaves m first middle) (after : Leaves middle rest n) :
    Leaves m (first ++ rest) n := by
  constructor
  · rw [after.now, before.now]
  · rw [after.focus, before.focus]
  · exact fun id body found => after.functions id body (before.functions id body found)
  · rw [after.notifier, before.notifier, Deed.allApplied_append]
  · rw [after.entries, before.entries, before.now, Deed.allEntries_append, List.append_assoc]

theorem entered {function : FunctionId} {arguments : List Value} {inside : List Deed}
    (inner : Leaves (m.enter (.function function arguments m.now)) inside n) :
    Leaves m [.entered function arguments inside] n := by
  refine ⟨inner.now, inner.focus, inner.functions, inner.notifier, inner.entries.trans ?_⟩
  simp [Deed.allEntries, Deed.entries, enter]

end Leaves

theorem Steady.leaves {m n : Machine σ} (steady : Steady m n) : Leaves m [] n := by
  refine ⟨steady.now, steady.focus, fun id body found => ?_, ?_, steady.entries⟩
  · rw [steady.functions, found]
  · exact congrArg HostMemory.notifier steady.memory

theorem Runs.leaves {m n : Machine σ} {program : Program σ} {deeds : List Deed} {outcome : Outcome}
    (runs : Runs m program deeds outcome n) : Leaves m deeds n := by
  induction runs with
  | finish m => exact .refl m
  | read _ ih => exact ih
  | @write m n memory next mine deeds outcome alters _ ih =>
    have written : Leaves m mine { m with memory } :=
      ⟨rfl, rfl, fun _ _ found => found, alters.allApplied, by rw [alters.allEntries]; rfl⟩
    exact written.trans ih
  | @perform m n request next deeds outcome _ ih => exact (perform_steady m request).leaves.trans ih
  | @define m n body next deeds outcome _ ih =>
    have defined : Leaves m [] { m with functions := m.functions.push body } := by
      refine ⟨rfl, rfl, fun id other found => ?_, rfl, rfl⟩
      rw [Array.getElem?_push, if_neg (Nat.ne_of_lt (Array.getElem?_eq_some_iff.mp found).1), found]
    exact defined.trans ih
  | call _ _ _ inner rest => exact inner.entered.trans rest
  | missing _ _ ih => exact ih
  | @setTimeout m n scheduler duration callback next deeds outcome _ ih =>
    exact (startTimer_steady m scheduler duration _).leaves.trans ih
  | @attach m n counter source body next deeds outcome _ ih =>
    exact (startContinuation_steady m counter source body).leaves.trans ih

/-- How far a program is after a number of steps: under way, or it has run to its end before. -/
def Course (m : Machine σ) (program : Program σ) (count : Nat) : Prop :=
  (∃ n rest, Comes m program count n rest ∧ Unfinished rest ∧ n.Honest) ∨
    ∃ used ≤ count, ∃ deeds outcome n, Runs m program deeds outcome n ∧
      Comes m program used n (.finish outcome) ∧ n.Honest

theorem Course.step {m next : Machine σ} {program rest : Program σ} {spent count : Nat}
    (mine : List Deed) (first : Comes m program spent next rest)
    (runs : ∀ deeds outcome n, Runs next rest deeds outcome n → Runs m program (mine ++ deeds) outcome n)
    (later : Course next rest count) : Course m program (spent + count) := by
  obtain ⟨n, left, comes, unfinished, honest⟩ |
    ⟨used, bound, deeds, outcome, n, run, comes, honest⟩ := later
  · exact .inl ⟨n, left, first.trans comes, unfinished, honest⟩
  · exact .inr ⟨spent + used, Nat.add_le_add_left bound spent, _, _, n, runs _ _ _ run, first.trans comes,
      honest⟩

theorem Honest.proceed {m : Machine σ} (honest : m.Honest) (body : Program σ) (owner : Owner σ) :
    (m.proceed body owner).Honest :=
  ⟨honest.notifier, honest.functions⟩

theorem Honest.enter {m : Machine σ} (honest : m.Honest) (entry : Entry) : (m.enter entry).Honest :=
  ⟨honest.notifier, honest.functions⟩

theorem Honest.write {m : Machine σ} {memory : σ} {deeds : List Deed} (honest : m.Honest)
    (alters : Alters m.notifier deeds (HostMemory.notifier memory)) : { m with memory }.Honest :=
  ⟨alters.reachable honest.notifier, honest.functions⟩

theorem Honest.define {m : Machine σ} {body : List Value → Program σ} (honest : m.Honest)
    (sound : ∀ arguments memory, (body arguments).Honest memory) :
    { m with functions := m.functions.push body }.Honest := by
  refine ⟨honest.notifier, fun id other found => ?_⟩
  rw [Array.getElem?_push] at found
  split at found
  next => cases found; exact sound
  next => exact honest.functions id other found

theorem Honest.steady {m n : Machine σ} (honest : m.Honest) (steady : Steady m n) : n.Honest := by
  constructor
  · rw [Machine.notifier, steady.memory]
    exact honest.notifier
  · rw [steady.functions]
    exact honest.functions

/-- An honest program in an honest machine runs to its end, or is under way as long as it is looked at. The
induction is on the number of steps, since what a callback does is no part of the program that calls it. -/
theorem progress {m : Machine σ} {program : Program σ} (honest : m.Honest)
    (sound : program.Honest m.memory) (count : Nat) : Course m program count := by
  induction count using Nat.strongRecOn generalizing m program with
  | ind count ih =>
    by_cases ended : ∃ outcome, program = .finish outcome
    · obtain ⟨outcome, rfl⟩ := ended
      exact .inr ⟨0, Nat.zero_le count, [], outcome, m, .finish m outcome, fun _ _ => rfl, honest⟩
    cases count with
    | zero => exact .inl ⟨m, program, fun _ _ => rfl, fun outcome same => ended ⟨outcome, same⟩, honest⟩
    | succ count =>
      have less := Nat.lt_succ_self count
      rw [Nat.add_comm count 1]
      have served {next : Machine σ} {rest : Program σ} (steady : Steady m next)
          (sound : rest.Honest m.memory) (comes : Comes m program 1 next rest)
          (runs : ∀ deeds outcome n, Runs next rest deeds outcome n → Runs m program deeds outcome n) :
          Course m program (1 + count) := by
        apply Course.step [] comes runs
        apply ih count less (honest.steady steady)
        rw [steady.memory]
        exact sound
      cases program with
      | finish outcome => exact absurd ⟨outcome, rfl⟩ ended
      | read next =>
        exact Course.step [] (fun _ _ => rfl) (fun _ _ _ => .read) (ih count less honest sound)
      | write memory next =>
        obtain ⟨⟨mine, alters⟩, sound⟩ := sound
        exact Course.step mine (fun _ _ => rfl) (fun _ _ _ => .write alters)
          (ih count less (honest.write alters) sound)
      | perform request next =>
        exact served (perform_steady m request) (sound _) (comes_perform m request next)
          (fun _ _ _ => .perform)
      | define body next =>
        exact Course.step [] (fun _ _ => rfl) (fun _ _ _ => .define)
          (ih count less (honest.define sound.1) (sound.2 _))
      | call function arguments next =>
        cases defined : m.functions[function]? with
        | none =>
          exact Course.step [] (.missing defined) (fun _ _ _ => .missing defined)
            (ih count less honest (sound _ _))
        | some body =>
          have inner := ih count less (honest.enter (.function function arguments m.now))
            (honest.functions function body defined arguments m.memory)
          obtain ⟨n, left, comes, unfinished, honest⟩ |
            ⟨used, bound, inside, ended, middle, run, comes, honest⟩ := inner
          · exact .inl ⟨n, _, .inside defined comes, unfinished.andThen next, honest⟩
          · have rest := ih (count - used) (by omega) honest (sound ended middle.memory)
            have total : 1 + used + (count - used) = 1 + count := by omega
            rw [← total]
            exact Course.step [.entered function arguments inside] (.inside defined comes)
              (fun _ _ _ => .call defined run) rest
      | setTimeout scheduler duration callback next =>
        exact served (startTimer_steady m scheduler duration (.run callback)) (sound.2 _)
          (comes_setTimeout m scheduler duration callback next) (fun _ _ _ => .setTimeout)
      | attach counter source body next =>
        exact served (startContinuation_steady m counter source body) (sound.2 _)
          (comes_attach m counter source body next) (fun _ _ _ => .attach)

end Machine
end Loop
end RuleHost
