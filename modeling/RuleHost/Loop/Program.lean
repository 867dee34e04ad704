import RuleHost.Loop.World

/-! Programs that run inside the loop. A program is a tree of requests: each node asks the loop for one
thing and goes on with the reply, so a program has no state but the memory it reads and writes. Programs
run to their end without a break; only a script, which is made of programs, can wait. -/

namespace RuleHost.Loop

/-- Why a program ends without a value. -/
inductive Failure where
  | host (error : HostError)
  /-- A task was to be started where no loop runs. -/
  | detached
deriving DecidableEq

def Failure.message : Failure → String
  | .host error => error.message
  | .detached => "no loop is running"

abbrev Outcome := Except Failure Value

/-- A request that carries no program of its own. -/
inductive Request where
  | look
  | note (notice : Notice)
  | newScheduler
  | clearTimeout (scheduler : SchedulerId) (id : TimerId)
  /-- A value that comes after a while, as a timer of a scheduler if one is given. -/
  | delay (counter : Option SchedulerId) (duration : Nat) (value : Value)
  | newDeferred
  | newResolved (value : Value)
  | resolve (cell : CellId) (value : Value)
  | dropResolver (cell : CellId)
  | cloneHandle (cell : CellId)
  | dropHandle (cell : CellId)

/-- What the loop replies. A task that cannot be started has no handle. -/
def Request.Reply : Request → Type
  | .look => World
  | .newScheduler => SchedulerId
  | .clearTimeout _ _ => Bool
  | .delay _ _ _ => Option CellId
  | .newDeferred => CellId
  | .newResolved _ => CellId
  | _ => Unit

/-- A program over a memory of type `σ`. -/
inductive Program (σ : Type) where
  | finish (outcome : Outcome)
  | read (next : σ → Program σ)
  | write (memory : σ) (next : Program σ)
  | perform (request : Request) (next : request.Reply → Program σ)
  /-- Defines a function that programs can call by its number. -/
  | define (body : List Value → Program σ) (next : FunctionId → Program σ)
  | call (function : FunctionId) (arguments : List Value) (next : Outcome → Program σ)
  | setTimeout (scheduler : SchedulerId) (duration : Nat) (callback : Program σ)
      (next : Option TimerId → Program σ)
  /-- Attaches a continuation to a deferred value, counted by a scheduler if one is given. -/
  | attach (counter : Option SchedulerId) (source : CellId) (body : Value → Program σ)
      (next : Option CellId → Program σ)

/-- Runs a program and goes on with the way it ended. -/
def Program.andThen {σ : Type} (first : Program σ) (after : Outcome → Program σ) : Program σ :=
  match first with
  | .finish outcome => after outcome
  | .read next => .read fun memory => (next memory).andThen after
  | .write memory next => .write memory (next.andThen after)
  | .perform request next => .perform request fun reply => (next reply).andThen after
  | .define body next => .define body fun id => (next id).andThen after
  | .call function arguments next =>
    .call function arguments fun outcome => (next outcome).andThen after
  | .setTimeout scheduler duration callback next =>
    .setTimeout scheduler duration callback fun id => (next id).andThen after
  | .attach counter source body next =>
    .attach counter source body fun cell => (next cell).andThen after

inductive Wait where
  /-- That nothing is ready to run. -/
  | turn
  | sleep (duration : Nat)
  /-- That a deferred value is settled, for a while at most if a limit is given. -/
  | settled (cell : CellId) (limit : Option Nat)

inductive Answer where
  | done
  | value (value : Value)
  | abandoned
  | limit

/-- A script runs programs and waits between them. What it waits for may depend on the memory. -/
inductive Script (σ : Type) where
  | finish (outcome : Outcome)
  | run (body : Program σ) (next : Outcome → Script σ)
  | pause (wait : σ → Wait) (next : Answer → Script σ)

end RuleHost.Loop
