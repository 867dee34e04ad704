import RuleHost.Host.Memory
import RuleHost.Loop.Act
import RuleHost.Registry

/-! What a script can do to its host from inside the loop: call functions, log lines, use output slots
and publish state changes. -/

namespace RuleHost.Host

open Loop

variable {σ : Type} [HostMemory σ]

def get : Act σ Host := do return HostMemory.host (← Act.memory)

def modify (change : Host → Host) : Act σ Unit :=
  Act.modifyMemory fun memory => HostMemory.setHost (change (HostMemory.host memory)) memory

def noteAll : List Notice → Act σ Unit
  | [] => pure ()
  | notice :: rest => do
    Act.note notice
    noteAll rest

/-- Lets a global act on the services. -/
def callGlobal (global : Global) (arguments : List Value)
    (enough : global.arity ≤ arguments.length) : Act σ Outcome := do
  let host ← get
  match global.answer arguments enough host.services with
  | .error error => return .error (.host error)
  | .ok reply =>
    modify fun host => { host with services := reply.services }
    noteAll reply.notice.toList
    return .ok reply.value

/-- Calls a host function, with enough arguments or in vain. -/
def callFunction (function : HostFunction) (arguments : List Value) : Act σ Outcome :=
  if short : arguments.length < function.arity then
    return .error (.host (.arity function.name function.arity arguments.length))
  else
    match body : function.body with
    | .global global =>
      callGlobal global arguments (Nat.le_trans (function.enough global body) (Nat.le_of_not_lt short))
    | .defined id => Act.call id arguments

/-- Calls whatever is installed under a name. -/
def call (registry : Registry) (name : String) (arguments : List Value) : Act σ Outcome :=
  match registry.find? name with
  | none => return .error (.host (.undefinedFunction name))
  | some function => do
    Act.note (.hostCall name arguments.length)
    callFunction function arguments

/-- Writes one line to the console. -/
def log (arguments : List Value) : Act σ Unit := do
  let host ← get
  let line := Console.line arguments
  match host.console.sink with
  | .kept => modify fun host => { host with console := { host.console with kept := line :: host.console.kept } }
  | .logged => Act.note (.consoleLine line)

def output (slot : SlotId) : Act σ Value := do return (← get).slot slot

def setOutput (slot : SlotId) (value : Value) : Act σ Unit := modify fun host => host.setSlot slot value

/-- Adds an output slot that holds null. -/
def newSlot : Act σ SlotId := do
  let host ← get
  modify fun host => { host with slots := host.slots.push .null }
  return host.slots.size

def callAll (arguments : List Value) : List FunctionRef → Act σ Unit
  | [] => pure ()
  | callback :: rest => do
    let _ ← Act.callFunction callback arguments
    callAll arguments rest

/-- Delivers a state change to every subscription that a thing has at this moment, and counts them. The
callbacks may change the subscriptions. -/
def publish (thing : String) (state : Value) : Act σ Nat := do
  let callbacks := (← get).services.notifier.callbacks thing
  callAll [.string thing, state] callbacks
  return callbacks.length

end RuleHost.Host
