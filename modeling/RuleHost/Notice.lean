import RuleHost.LogLevel
import RuleHost.Timer.Table

/-! What the host tells its log while it works. -/

namespace RuleHost

inductive Notice where
  | timerScheduled (id : TimerId) (delay : Nat)
  | timerCancelled (id : TimerId)
  | timerFired (id : TimerId)
  | draining
  | functionReplaced (name : String)
  | functionsInstalled (count : Nat)
  | hostCall (name : String) (arguments : Nat)
  | listenerRegistered (id : Nat) (thing : String)
  | writeScheduled (delay : Nat)
  | runStarted (delay : Nat)
  | runFinished (stats : TimerStats)
  | configLoading (path : String)
  | consoleLine (line : String)
deriving DecidableEq

namespace Notice

def level : Notice → LogLevel
  | .functionReplaced _ => .warn
  | .hostCall _ _ => .trace
  | .consoleLine _ => .info
  | _ => .debug

def message : Notice → String
  | .timerScheduled id delay => s!"{id.display} scheduled in {delay}ms"
  | .timerCancelled id => s!"{id.display} cancelled"
  | .timerFired id => s!"{id.display} fired"
  | .draining => "script body finished, draining event loop"
  | .functionReplaced name => s!"host function {name} was replaced"
  | .functionsInstalled count => s!"installed {count} host functions"
  | .hostCall name arguments => s!"host call {name}({arguments} args)"
  | .listenerRegistered id thing => s!"listener {id} registered for {thing}"
  | .writeScheduled delay => s!"output write scheduled in {delay}ms"
  | .runStarted delay => s!"running hello script, delay {delay}ms"
  | .runFinished stats => s!"run finished: {stats.debug}"
  | .configLoading path => s!"loading config from {path}"
  | .consoleLine line => line

end Notice
end RuleHost
