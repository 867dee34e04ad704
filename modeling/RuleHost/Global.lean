import RuleHost.Arguments
import RuleHost.Notice
import RuleHost.Service.Greeter
import RuleHost.Service.Notifier
import RuleHost.Service.Things
import RuleHost.Service.UrlFetcher
import RuleHost.Service.Variables

/-! The globals through which a script reaches the host: their names, how many arguments they need, and
what each asks of the services. A global that fails leaves the services as they were. -/

namespace RuleHost

/-- Everything a script can reach outside itself. -/
structure Services where
  urls : UrlFetcher := .echo
  greeter : Greeter := {}
  notifier : Notifier := {}
  things : Things := {}
  rule : Variables := {}

inductive Global where
  | getUrl | hello | notifyOnThingStatesChange | unregisterThingStateListener
  | execThingAction | getThingState | getAllThingStates | cmdThingState
  | setGlobalVar | getGlobalVar | getNamedInputValue | setNamedOutputValue | ruleType
deriving DecidableEq

namespace Global

/-- The globals in the order in which they are installed. -/
def all : List Global :=
  [.getUrl, .hello, .notifyOnThingStatesChange, .unregisterThingStateListener, .execThingAction,
    .getThingState, .getAllThingStates, .cmdThingState, .setGlobalVar, .getGlobalVar,
    .getNamedInputValue, .setNamedOutputValue, .ruleType]

def name : Global → String
  | .getUrl => "get_url"
  | .hello => "hello"
  | .notifyOnThingStatesChange => "notifyOnThingStatesChange"
  | .unregisterThingStateListener => "unregisterThingStateListener"
  | .execThingAction => "execThingAction"
  | .getThingState => "getThingState"
  | .getAllThingStates => "getAllThingStates"
  | .cmdThingState => "cmdThingState"
  | .setGlobalVar => "setGlobalVar"
  | .getGlobalVar => "getGlobalVar"
  | .getNamedInputValue => "getNamedInputValue"
  | .setNamedOutputValue => "setNamedOutputValue"
  | .ruleType => "ruletype"

/-- The least number of arguments. -/
def arity : Global → Nat
  | .getUrl => 1
  | .hello => 1
  | .notifyOnThingStatesChange => 2
  | .unregisterThingStateListener => 1
  | .execThingAction => 2
  | .getThingState => 2
  | .getAllThingStates => 1
  | .cmdThingState => 4
  | .setGlobalVar => 2
  | .getGlobalVar => 1
  | .getNamedInputValue => 1
  | .setNamedOutputValue => 2
  | .ruleType => 0

/-- What a successful call gives: its value, the services after it, and what it tells the log. -/
structure Reply where
  value : Value
  services : Services
  notice : Option Notice := none

/-- Carries out a call that has enough arguments. What is needed as it is, is taken from its place; only
an argument that may be left out is undefined if it is. -/
def answer (global : Global) (arguments : List Value) (enough : global.arity ≤ arguments.length)
    (services : Services) : Except HostError Reply := do
  let string := Arguments.string global.name arguments
  match global, enough with
  | .getUrl, enough => return ⟨← services.urls.fetch (arguments.get ⟨0, enough⟩), services, none⟩
  | .hello, enough =>
    match (arguments.get ⟨0, enough⟩).text? with
    | some name =>
      let (value, greeter) := services.greeter.greet name
      return ⟨value, { services with greeter }, none⟩
    | none => return ⟨.string "", services, none⟩
  | .notifyOnThingStatesChange, _ =>
    let thing ← string 0
    let callback ← Arguments.function global.name arguments 1
    let (id, notifier) := services.notifier.subscribe thing callback
    return ⟨Notifier.receipt thing, { services with notifier }, some (.listenerRegistered id thing)⟩
  | .unregisterThingStateListener, _ =>
    let id ← Arguments.listener global.name arguments 0
    let (found, notifier) := services.notifier.unsubscribe id
    return ⟨.bool found, { services with notifier }, none⟩
  | .execThingAction, _ =>
    let thing ← string 0
    let action ← string 1
    let things ← services.things.execute thing action (Arguments.orUndefined arguments 2)
    return ⟨.undefined, { services with things }, none⟩
  | .getThingState, _ =>
    let thing ← string 0
    let state ← string 1
    let number ← Arguments.stateNumber global.name arguments 2
    return ⟨← services.things.state thing ⟨state, number⟩, services, none⟩
  | .getAllThingStates, _ =>
    let thing ← string 0
    return ⟨← services.things.allStates thing, services, none⟩
  | .cmdThingState, enough =>
    let thing ← string 0
    let state ← string 1
    let number ← Arguments.stateNumber global.name arguments 2
    let value := arguments.get ⟨3, enough⟩
    let (accepted, things) := services.things.command thing ⟨state, number⟩ value
    return ⟨.bool accepted, { services with things }, none⟩
  | .setGlobalVar, enough =>
    let rule := services.rule.setGlobal (← string 0) (arguments.get ⟨1, enough⟩)
    return ⟨.undefined, { services with rule }, none⟩
  | .getGlobalVar, _ => return ⟨services.rule.global (← string 0), services, none⟩
  | .getNamedInputValue, _ => return ⟨services.rule.input (← string 0), services, none⟩
  | .setNamedOutputValue, enough =>
    let rule := services.rule.setOutput (← string 0) (arguments.get ⟨1, enough⟩)
    return ⟨.undefined, { services with rule }, none⟩
  | .ruleType, _ => return ⟨.string services.rule.ruleType, services, none⟩

end Global
end RuleHost
