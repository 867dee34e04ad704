import RuleHost.HostError
import RuleHost.Table

/-! The things a script can act on, with their states. A thing has several states under one name, told
apart by an instance number. -/

namespace RuleHost

structure StateKey where
  name : String
  number : Nat
deriving DecidableEq

structure Action where
  thing : String
  action : String
  arguments : Value

structure Things where
  known : Table String (Table StateKey Value) := .empty
  /-- The actions executed so far, newest first. -/
  actions : List Action := []

namespace Things

def knows (things : Things) (thing : String) : Bool := things.known.contains thing

/-- Makes a thing known, without states. A known thing keeps those it has. -/
def add (things : Things) (thing : String) : Things :=
  if things.knows thing then things
  else { things with known := things.known.insert thing .empty }

/-- Sets a state, making the thing known if need be. -/
def setState (things : Things) (thing : String) (key : StateKey) (value : Value) : Things :=
  let states := (things.known.find? thing).getD .empty
  { things with known := things.known.insert thing (states.insert key value) }

/-- Commands a state change, which a thing that is not known refuses. -/
def command (things : Things) (thing : String) (key : StateKey) (value : Value) : Bool × Things :=
  match things.known.find? thing with
  | some states => (true, { things with known := things.known.insert thing (states.insert key value) })
  | none => (false, things)

/-- Executes an action on a known thing. -/
def execute (things : Things) (thing action : String) (arguments : Value) :
    Except HostError Things :=
  if things.knows thing then .ok { things with actions := ⟨thing, action, arguments⟩ :: things.actions }
  else .error (.unknownThing thing)

/-- The value of a state, undefined if it was never set. -/
def state (things : Things) (thing : String) (key : StateKey) : Except HostError Value :=
  match things.known.find? thing with
  | some states => .ok ((states.find? key).getD .undefined)
  | none => .error (.unknownThing thing)

/-- One state as a list of its name, its number and its value. -/
def stateEntry (entry : StateKey × Value) : Value :=
  .list [.string entry.1.name, .int (Int64.ofNat entry.1.number), entry.2]

/-- All states of a thing, in the order in which they were first set. -/
def allStates (things : Things) (thing : String) : Except HostError Value :=
  match things.known.find? thing with
  | some states => .ok (.list (states.entries.map stateEntry))
  | none => .error (.unknownThing thing)

/-- The actions executed so far, oldest first. -/
def executed (things : Things) : List Action := things.actions.reverse

end Things
end RuleHost
