import RuleHost.Config
import RuleHost.Hello
import RuleHost.Loop.Run

/-! A whole run of the hello script: its host is set up as configured, the script runs in a loop of its
own until its delayed write has happened, and a report is made. A script that fails ends the run, and
nothing that it started happens. -/

namespace RuleHost

open Loop

/-- What a run that succeeds leaves behind. -/
structure HelloRun.Report where
  output : Value
  stats : TimerStats

def HelloRun.Report.describe (report : HelloRun.Report) : String := report.output.describe

/-- The services that a configuration describes. -/
def Config.services (config : Config) : Services :=
  { greeter := { word := config.greeting }
    rule := { ruleType := config.ruleType } }

/-- Everything that can be seen of a run when it is over. -/
structure HelloRun where
  services : Services
  /-- The lines that the console kept. -/
  lines : List String
  notices : List Notice
  result : Except Failure HelloRun.Report

namespace HelloRun

/-- Installs the globals and fills the output slot. -/
def prepare (config : Config) : Act Host Context := do
  let (notices, globals) := ({} : Registry).install
  Host.noteAll notices
  Host.setOutput 0 config.initialValue
  Act.note (.runStarted config.delay.toNat)
  let imports := Context.importsOf [(Hello.importName, .string config.constant)]
  return { scheduler := 0, globals, imports, output := 0 }

def program (config : Config) : Program Host :=
  (show Act Host (Except Failure Hello.Started) from do
    let context ← prepare config
    (Hello.run context config.delay.toNat).run).programWith fun
      | .ok _ => .ok .undefined
      | .error failure => .error failure

def report (m : Machine Host) : Report :=
  ⟨m.memory.slot 0, (m.toWorld.scheduler 0).stats⟩

/-- What can be seen of a machine that has run the script. -/
def ofMachine (m : Machine Host) (outcome : Outcome) : HelloRun :=
  let services := m.memory.services
  let lines := m.memory.console.lines
  match outcome with
  | .error failure => ⟨services, lines, m.notices.reverse, .error failure⟩
  | .ok _ =>
    let report := report m
    ⟨services, lines, m.notices.reverse ++ [.runFinished report.stats], .ok report⟩

/-- More steps than the script can take. -/
def patience : Nat := 100

/-- Runs the hello script on the services of a host, whose console keeps its lines or sends them to the
log. -/
def of? (config : Config) (services : Services) (sink : Sink) : Option HelloRun := do
  let host : Host := { services, console := { sink } }
  let m ← (Machine.start host (.run (program config) .finish)).tryRun patience
  return ofMachine m (← m.outcome?)

/-- Runs the hello script several times on the same services. -/
def repeated (config : Config) (sink : Sink) : Nat → Services → List HelloRun
  | 0, _ => []
  | count + 1, services =>
    match of? config services sink with
    | none => []
    | some run => run :: repeated config sink count run.services

/-- What is said of a run that failed, ahead of why. -/
def failed : String := "Hello script failed"

/-- What is said of a run that failed, and why. -/
def failedBecause (failure : Failure) : String := failed ++ ": " ++ failure.message

end HelloRun
end RuleHost
