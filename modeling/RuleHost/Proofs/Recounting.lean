import RuleHost.Host.Memory
import RuleHost.Proofs.LoopHistory

/-! Scripts that are the same but for who counts their continuations. What such scripts do may not depend on
how many continuations were counted: wherever one of them looks at the loop or at its memory, the other goes
on alike whatever the counts are there. The relation is told for as many schedulers as are known to exist, so
that a continuation changes its counter only for a scheduler that is there. -/

namespace RuleHost

def TimerStats.uncounted (stats : TimerStats) : TimerStats := { stats with continuations := 0 }

def TimerTable.uncounted (table : TimerTable) : TimerTable := { table with stats := table.stats.uncounted }

namespace Loop

def World.uncounted (w : World) : World := { w with schedulers := w.schedulers.map TimerTable.uncounted }

/-- Which memories a script treats alike, where so many schedulers are known. They hold the same host. -/
structure Likeness (σ : Type) [HostMemory σ] where
  alike : Nat → σ → σ → Prop
  mono : ∀ {known more : Nat} {a b : σ}, known ≤ more → alike known a b → alike more a b
  host : ∀ {known : Nat} {a b : σ}, alike known a b → HostMemory.host a = HostMemory.host b

def Likeness.same (σ : Type) [HostMemory σ] : Likeness σ where
  alike _ a b := a = b
  mono _ same := same
  host same := congrArg HostMemory.host same

/-- Replies that are the same but for counts, where so many schedulers are known after them. -/
def Request.Alike (known : Nat) : (request : Request) → request.Reply → request.Reply → Prop
  | .look, w, v => w.uncounted = v.uncounted ∧ w.schedulers.size = known
  | .newScheduler, (id : SchedulerId), (other : SchedulerId) => id = other ∧ id < known
  | _, reply, other => reply = other

/-- Two counters of one continuation: the same, or others that exist if they are schedulers. -/
def Recounters (known : Nat) (counter other : Option SchedulerId) : Prop :=
  counter = other ∨
    (∀ scheduler, counter = some scheduler → scheduler < known) ∧
      ∀ scheduler, other = some scheduler → scheduler < known

variable {σ : Type} [HostMemory σ]

inductive Program.Recounted (like : Likeness σ) : Nat → Program σ → Program σ → Prop where
  | finish {known : Nat} (outcome : Outcome) : Recounted like known (.finish outcome) (.finish outcome)
  | read {known : Nat} {next other : σ → Program σ}
      (rest : ∀ more, known ≤ more → ∀ a b, like.alike more a b → Recounted like more (next a) (other b)) :
      Recounted like known (.read next) (.read other)
  | write {known : Nat} {a b : σ} {next other : Program σ} (memory : like.alike known a b)
      (rest : Recounted like known next other) : Recounted like known (.write a next) (.write b other)
  | perform {known : Nat} (request : Request) {next other : request.Reply → Program σ}
      (rest : ∀ more, known ≤ more → ∀ reply answer, request.Alike more reply answer →
        Recounted like more (next reply) (other answer)) :
      Recounted like known (.perform request next) (.perform request other)
  | define {known : Nat} {body same : List Value → Program σ} {next other : FunctionId → Program σ}
      (bodies : ∀ arguments, Recounted like known (body arguments) (same arguments))
      (rest : ∀ id, Recounted like known (next id) (other id)) :
      Recounted like known (.define body next) (.define same other)
  | call {known : Nat} (function : FunctionId) (arguments : List Value) {next other : Outcome → Program σ}
      (rest : ∀ outcome, Recounted like known (next outcome) (other outcome)) :
      Recounted like known (.call function arguments next) (.call function arguments other)
  | setTimeout {known : Nat} (scheduler : SchedulerId) (duration : Nat) {callback same : Program σ}
      {next other : Option TimerId → Program σ} (bodies : Recounted like known callback same)
      (rest : ∀ id, Recounted like known (next id) (other id)) :
      Recounted like known (.setTimeout scheduler duration callback next)
        (.setTimeout scheduler duration same other)
  | attach {known : Nat} {counter recounter : Option SchedulerId} (counters : Recounters known counter recounter)
      (source : CellId) {body same : Value → Program σ} {next other : Option CellId → Program σ}
      (bodies : ∀ value, Recounted like known (body value) (same value))
      (rest : ∀ cell, Recounted like known (next cell) (other cell)) :
      Recounted like known (.attach counter source body next) (.attach recounter source same other)

inductive Script.Recounted (like : Likeness σ) : Nat → Script σ → Script σ → Prop where
  | finish {known : Nat} (outcome : Outcome) : Recounted like known (.finish outcome) (.finish outcome)
  | run {known : Nat} {body same : Program σ} {next other : Outcome → Script σ}
      (bodies : body.Recounted like known same)
      (rest : ∀ outcome, Recounted like known (next outcome) (other outcome)) :
      Recounted like known (.run body next) (.run same other)
  | pause {known : Nat} {wait same : σ → Wait} {next other : Answer → Script σ}
      (waits : ∀ more, known ≤ more → ∀ a b, like.alike more a b → wait a = same b)
      (rest : ∀ answer, Recounted like known (next answer) (other answer)) :
      Recounted like known (.pause wait next) (.pause same other)

namespace World

variable {w v : World}

theorem size_uncounted (same : w.uncounted = v.uncounted) : w.schedulers.size = v.schedulers.size := by
  have tables : w.schedulers.map TimerTable.uncounted = v.schedulers.map TimerTable.uncounted :=
    congrArg World.schedulers same
  simpa only [Array.size_map] using congrArg Array.size tables

theorem scheduler_uncounted (same : w.uncounted = v.uncounted) (id : SchedulerId) :
    (w.scheduler id).uncounted = (v.scheduler id).uncounted := by
  have tables : w.schedulers.map TimerTable.uncounted = v.schedulers.map TimerTable.uncounted :=
    congrArg World.schedulers same
  have look (w : World) : (w.scheduler id).uncounted = ((w.schedulers.map TimerTable.uncounted)[id]?).getD {} := by
    rw [Array.getElem?_map, World.scheduler]
    cases w.schedulers[id]? <;> rfl
  rw [look, look, tables]

/-- Worlds that differ in counts differ in their timer tables at most. -/
theorem eq_of_uncounted (same : w.uncounted = v.uncounted) : v = { w with schedulers := v.schedulers } := by
  obtain ⟨_, _, _, _, _, _⟩ := w
  obtain ⟨_, _, _, _, _, _⟩ := v
  simp only [uncounted, mk.injEq] at same
  obtain ⟨rfl, rfl, _, rfl, rfl, rfl⟩ := same
  rfl

end World

variable {like : Likeness σ} {known more : Nat}

theorem Recounters.mono {counter other : Option SchedulerId} (counters : Recounters known counter other)
    (less : known ≤ more) : Recounters more counter other :=
  counters.imp_right fun ⟨one, two⟩ =>
    ⟨fun scheduler named => Nat.lt_of_lt_of_le (one scheduler named) less,
      fun scheduler named => Nat.lt_of_lt_of_le (two scheduler named) less⟩

/-- What is the same for few schedulers stays so when there are more. -/
theorem Program.Recounted.mono {first second : Program σ} (recounted : first.Recounted like known second)
    (less : known ≤ more) : first.Recounted like more second := by
  induction recounted generalizing more with
  | finish outcome => exact .finish outcome
  | read rest => exact .read fun size enough => rest size (Nat.le_trans less enough)
  | write memory _ ih => exact .write (like.mono less memory) (ih less)
  | perform request rest => exact .perform request fun size enough => rest size (Nat.le_trans less enough)
  | define _ _ bodies rest => exact .define (fun arguments => bodies arguments less) fun id => rest id less
  | call function arguments _ rest => exact .call function arguments fun outcome => rest outcome less
  | setTimeout scheduler duration _ _ bodies rest =>
    exact .setTimeout scheduler duration (bodies less) fun id => rest id less
  | attach counters source _ _ bodies rest =>
    exact .attach (counters.mono less) source (fun value => bodies value less) fun cell => rest cell less

theorem Program.Recounted.andThen {first second : Program σ} (recounted : first.Recounted like known second)
    {next other : Outcome → Program σ} (rest : ∀ outcome, (next outcome).Recounted like known (other outcome)) :
    (first.andThen next).Recounted like known (second.andThen other) := by
  induction recounted with
  | finish outcome => exact rest outcome
  | read _ ih =>
    exact .read fun size enough a b alike => ih size enough a b alike fun outcome => (rest outcome).mono enough
  | write memory _ ih => exact .write memory (ih rest)
  | perform request _ ih =>
    exact .perform request fun size enough reply answer alike =>
      ih size enough reply answer alike fun outcome => (rest outcome).mono enough
  | define bodies _ _ ih => exact .define bodies fun id => ih id rest
  | call function arguments _ ih => exact .call function arguments fun outcome => ih outcome rest
  | setTimeout scheduler duration bodies _ _ ih => exact .setTimeout scheduler duration bodies fun id => ih id rest
  | attach counters source bodies _ _ ih => exact .attach counters source bodies fun cell => ih cell rest

theorem Script.Recounted.mono {first second : Script σ} (recounted : first.Recounted like known second)
    (less : known ≤ more) : first.Recounted like more second := by
  induction recounted generalizing more with
  | finish outcome => exact .finish outcome
  | run bodies _ ih => exact .run (bodies.mono less) fun outcome => ih outcome less
  | pause waits _ ih =>
    exact .pause (fun size enough => waits size (Nat.le_trans less enough)) fun answer => ih answer less

def Likeness.swap (like : Likeness σ) : Likeness σ where
  alike known a b := like.alike known b a
  mono less alike := like.mono less alike
  host alike := (like.host alike).symm

theorem Request.Alike.symm {request : Request} {reply answer : request.Reply}
    (alike : request.Alike known reply answer) : request.Alike known answer reply := by
  cases request with
  | look => exact ⟨alike.1.symm, (World.size_uncounted alike.1).symm.trans alike.2⟩
  | newScheduler => exact ⟨alike.1.symm, alike.1 ▸ alike.2⟩
  | note | clearTimeout | delay | newDeferred | newResolved | resolve | dropResolver | cloneHandle | dropHandle =>
    exact Eq.symm alike

theorem Recounters.symm {counter other : Option SchedulerId} (counters : Recounters known counter other) :
    Recounters known other counter :=
  counters.imp Eq.symm And.symm

theorem Program.Recounted.symm {first second : Program σ} (recounted : first.Recounted like known second) :
    second.Recounted like.swap known first := by
  induction recounted with
  | finish outcome => exact .finish outcome
  | read _ ih => exact .read fun more less a b alike => ih more less b a alike
  | write memory _ ih => exact .write memory ih
  | perform request _ ih => exact .perform request fun more less reply answer alike => ih more less _ _ alike.symm
  | define _ _ bodies rest => exact .define bodies rest
  | call function arguments _ rest => exact .call function arguments rest
  | setTimeout scheduler duration _ _ bodies rest => exact .setTimeout scheduler duration bodies rest
  | attach counters source _ _ bodies rest => exact .attach counters.symm source bodies rest

theorem Script.Recounted.symm {first second : Script σ} (recounted : first.Recounted like known second) :
    second.Recounted like.swap known first := by
  induction recounted with
  | finish outcome => exact .finish outcome
  | run bodies _ ih => exact .run bodies.symm ih
  | pause waits _ ih => exact .pause (fun more less a b alike => (waits more less b a alike).symm) ih

end Loop
end RuleHost
