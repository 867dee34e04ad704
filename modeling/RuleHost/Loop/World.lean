import RuleHost.HostError
import RuleHost.Notice

/-! The part of a running loop that a program can look at: the clock, the timer tables, the deferred
values, the callbacks entered so far and the log. -/

namespace RuleHost.Loop

abbrev TaskId := Nat
abbrev CellId := Nat
abbrev SchedulerId := Nat
abbrev FunctionId := Nat

/-- Who may still give a deferred value its value: a program that holds the resolver, or the task that
took it along. -/
inductive Writer where
  | program | task
deriving DecidableEq

/-- A deferred value is pending until it is resolved, at most once, or until its resolver is gone. -/
inductive CellState where
  | pending (writer : Writer)
  | resolved (value : Value) (time : Nat)
  | abandoned

/-- A deferred value, and how many handles on it are still held. -/
structure Cell where
  state : CellState
  handles : Nat := 1

namespace Cell

def isPending (cell : Cell) : Bool :=
  match cell.state with
  | .pending _ => true
  | _ => false

def isAbandoned (cell : Cell) : Bool :=
  match cell.state with
  | .abandoned => true
  | _ => false

def isOpen (cell : Cell) : Bool :=
  match cell.state with
  | .pending .program => true
  | _ => false

def peek (cell : Cell) : Option Value :=
  match cell.state with
  | .resolved value _ => some value
  | _ => none

def isObserved (cell : Cell) : Bool := 0 < cell.handles

/-- The debug text of a handle. An abandoned value still counts as pending. -/
def debug (cell : Cell) : String :=
  "Deferred \x7b state: " ++ (if cell.peek.isSome then "Resolved" else "Pending") ++ ", .. \x7d"

def debugResolver (cell : Cell) : String :=
  "Resolver \x7b observed: " ++ toString cell.isObserved ++ ", .. \x7d"

end Cell

inductive Entry where
  | timer (scheduler : SchedulerId) (id : TimerId) (time : Nat)
  | delay (target : CellId) (time : Nat)
  | continuation (source target : CellId) (argument : Value) (time : Nat)
  | function (id : FunctionId) (arguments : List Value) (time : Nat)

structure World where
  now : Nat := 0
  /-- Whether a loop is there to take on tasks. -/
  attached : Bool := true
  schedulers : Array TimerTable := #[{}]
  cells : Array Cell := #[]
  /-- The callbacks entered so far, newest first. -/
  entries : List Entry := []
  /-- What the log was told so far, newest first. -/
  notices : List Notice := []

namespace World

def scheduler (w : World) (id : SchedulerId) : TimerTable := w.schedulers[id]?.getD {}

def cell? (w : World) (id : CellId) : Option Cell := w.cells[id]?

end World
end RuleHost.Loop
