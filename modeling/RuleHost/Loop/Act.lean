import RuleHost.Loop.Program

/-! Writing programs in steps. An act is a part of a program with a result of its own: given what the
program does with the result, it is the program. -/

namespace RuleHost.Loop

/-- A part of a program over a memory of type `σ` that has a result of type `α`. -/
def Act (σ α : Type) : Type := (α → Program σ) → Program σ

namespace Act

variable {σ α : Type}

instance : Monad (Act σ) where
  pure value := fun next => next value
  bind act after := fun next => act fun value => after value next

/-- The program that does an act and ends with what is made of its result. -/
def programWith (act : Act σ α) (outcome : α → Outcome) : Program σ :=
  act fun value => .finish (outcome value)

def program (act : Act σ Value) : Program σ := act.programWith .ok

def memory : Act σ σ := fun next => .read next

def modifyMemory (change : σ → σ) : Act σ Unit :=
  fun next => .read fun memory => .write (change memory) (next ())

def perform (request : Request) : Act σ request.Reply := fun next => .perform request next

def look : Act σ World := perform .look

def note (notice : Notice) : Act σ Unit := perform (.note notice)

def define (body : List Value → Act σ Value) : Act σ FunctionId :=
  fun next => .define (fun arguments => (body arguments).program) next

def call (function : FunctionId) (arguments : List Value) : Act σ Outcome :=
  fun next => .call function arguments next

/-- Calls a function that a script has defined. One that does not end with a value has none. -/
def callFunction (function : FunctionRef) (arguments : List Value) : Act σ Value := do
  match ← call function.id arguments with
  | .ok value => pure value
  | _ => pure .undefined

def setTimeout (scheduler : SchedulerId) (duration : Nat) (callback : Act σ Unit) :
    Act σ (Option TimerId) :=
  fun next => .setTimeout scheduler duration (callback.programWith fun _ => .ok .undefined) next

def attach (counter : Option SchedulerId) (source : CellId) (body : Value → Act σ Value) :
    Act σ (Option CellId) :=
  fun next => .attach counter source (fun value => (body value).program) next

/-- Fails if a task could not be started. -/
def orDetached (act : Act σ (Option α)) : ExceptT Failure (Act σ) α := do
  match ← ExceptT.lift act with
  | some value => pure value
  | none => throw .detached

end Act
end RuleHost.Loop
