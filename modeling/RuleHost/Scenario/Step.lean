import RuleHost.HostError
import RuleHost.Timer.Table

/-! Scenarios: scripts written down as steps. Timers, deferred values and functions that a step creates
go by labels, and later steps refer to them by these. -/

namespace RuleHost.Scenario

/-- A value as a step writes it. -/
inductive Expr where
  | value (value : Value)
  | list (items : List Expr)
  /-- The function defined under a label. -/
  | function (label : String)
  /-- A new function, different from all others, that returns undefined. -/
  | newFunction (name : String)
  /-- An argument of the running callback, undefined if it has none. -/
  | argument (index : Nat)
  | output
deriving Inhabited

/-- A timer by its label or by its number. -/
inductive TimerName where
  | label (label : String)
  | number (number : Nat)

/-- What a host function that a step registers does. -/
inductive Native where
  | constant (value : Expr)
  | countArguments
  | stringArgument (index : Nat)
  | integerArgument (index : Nat)
  | functionArgument (index : Nat)
  | anyArgument (index : Nat)
  | fail (name message : String)
  /-- Calls the function among its arguments with all of them. -/
  | callArgument (index : Nat)

/-- What a step can ask the debug text of. -/
inductive Subject where
  | handle (label : String)
  | resolver (label : String)
  | function (label : String)
  | hostFunction (name : String)
  | registry
  | bindings
  | context
  | output
  | stats
  | scheduler
  | eventLoop
  | variable (name : String)
  | outcome (label : String)

/-- One step. A callback has steps of its own, and returns a value when they are done. -/
inductive Step where
  | call (name : String) (arguments : List Expr)
  | callFound (name : String) (arguments : List Expr)
  | register (name : String) (arity : Nat) (native : Native)
  | registerSteps (name : String) (arity : Nat) (steps : List Step) (result : Expr)
  | install
  | functions
  | contains (name : String)
  | lookUp (name : String)
  | addThing (thing : String)
  | setState (thing state : String) (number : Nat) (value : Expr)
  | setInput (name : String) (value : Expr)
  | actions
  | publish (thing : String) (value : Expr)
  | listeners (thing : String)
  | namedOutput (name : String)
  | greeted
  | define (label name : String) (steps : List Step) (result : Expr)
  | callFunction (label : String) (arguments : List Expr)
  | equal (first second : Expr)
  | setOutput (value : Expr)
  | getOutput
  | describeOutput
  | log (arguments : List Expr)
  | lines
  | setTimeout (label : String) (duration : Nat) (steps : List Step)
  | manyTimeouts (durations : List Nat)
  | clearTimeout (timer : TimerName)
  | timerState (timer : TimerName)
  | pendingTimers
  | stats
  | newScheduler
  | deferred (label : String)
  | resolved (label : String) (value : Expr)
  | cloneHandle (source label : String)
  | delay (label : String) (duration : Nat) (value : Expr) (counted : Bool)
  | attach (source label : String) (steps : List Step) (result : Expr) (counted : Bool)
  | resolve (label : String) (value : Expr)
  | dropResolver (label : String)
  | dropHandle (label : String)
  | isObserved (label : String)
  | peek (label : String)
  | handles
  | context (imports : List (String × Expr)) (ownOutput : Bool)
  | contextCall (name : String) (arguments : List Expr)
  | contextLog (arguments : List Expr)
  | contextImport (name : String)
  | contextOutput
  | contextStats
  | hello (duration : Nat) (label : String)
  | outcome (label : String)
  | debug (subject : Subject)
deriving Inhabited

/-- What a scenario does between its starts and ends of callbacks: a step, or a wait. -/
inductive Instruction where
  /-- A step; on request, an error that it gives ends the scenario. -/
  | step (step : Step) (attempt : Bool)
  | turn
  | advance (duration : Nat)
  | wait (label : String) (limit : Nat)

/-- How a deferred value looks through a handle. -/
inductive HandleView where
  | pending
  | abandoned
  | resolved (value : Value)

/-- What a step gives. -/
inductive Result where
  | nothing
  /-- The step was to start a task where no loop runs. -/
  | detached
  | notFound
  | flag (flag : Bool)
  | count (count : Nat)
  | range (ends : Option (Nat × Nat))
  | text (text : String)
  | texts (texts : List String)
  | numbers (numbers : List Nat)
  | value (value : Value)
  | called (outcome : Except HostError Value)
  | functions (entries : List (String × Nat)) (empty : Bool)
  | functionEntry (name : String) (arity : Nat)
  | actions (actions : List (String × String × Value))
  | timerState (state : TimerState)
  | stats (stats : TimerStats)
  | handle (handle : HandleView)
  | handles (handles : List (String × HandleView))
  | arrived (value : Value)
  | gone
  | limit
  | subscription (value : Value)
  | outcome (outcome : HandleView)

end RuleHost.Scenario
