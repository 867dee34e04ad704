import RuleHost.Loop.Run
import RuleHost.Scenario.Steps

/-! Playing a scenario: its instructions as a script of the loop, and what is left when the loop is
gone. -/

namespace RuleHost.Scenario

open Loop

inductive Mode where
  /-- Where no loop runs. -/
  | bare
  /-- In a loop that is gone when the steps are done. -/
  | leave
  /-- In a loop that runs whatever they left behind. -/
  | drain
  /-- In a loop that does so unless the steps fail. -/
  | drainUnlessFailed
deriving DecidableEq

structure Setup where
  greeting : String := "hello"
  ruleType : String := "condition"
  urls : UrlFetcher := .echo
  sink : Sink := .kept
  emptyRegistry : Bool := false
  output : Expr := .value .null

def Setup.state (setup : Setup) : State :=
  { host :=
      { services :=
          { urls := setup.urls
            greeter := { word := setup.greeting }
            rule := { ruleType := setup.ruleType } }
        console := { sink := setup.sink } } }

/-- Installs the globals and fills the output slot. -/
def Setup.prepare (setup : Setup) : Act State Unit := do
  if setup.emptyRegistry then pure ()
  else
    let (notices, registry) := ({} : Registry).install
    Host.noteAll notices
    Act.modifyMemory fun state => { state with registry }
  Host.setOutput mainOutput (← setup.output.eval [])
  record .nothing

/-- The program of a step. A step that is an attempt ends the scenario with the error it gives. -/
def stepProgram (step : Step) (attempt : Bool) : Program State :=
  (show Act State Result from do
    let result ← Step.run [] step
    record result
    return result).programWith fun result =>
      match attempt, result with
      | true, .called (.error error) => .error (.host error)
      | _, _ => .ok .undefined

def recordProgram (result : Result) : Program State :=
  (record result).programWith fun _ => .ok .undefined

def ofAnswer : Answer → Result
  | .value value => .arrived value
  | .abandoned => .gone
  | .limit => .limit
  | .done => .nothing

/-- Goes on with the rest of a script if a program of it ended with a value. -/
def unlessFailed (rest : Script State) : Outcome → Script State
  | .ok _ => rest
  | .error failure => .finish (.error failure)

def turnThen (rest : Script State) : Script State := .pause (fun _ => .turn) fun _ => rest

/-- One instruction, and then the rest of the script. Every wait ends with a turn. -/
def Instruction.script (rest : Script State) : Instruction → Script State
  | .step action attempt => .run (stepProgram action attempt) (unlessFailed rest)
  | .turn => turnThen (.run (recordProgram .nothing) (unlessFailed rest))
  | .advance duration =>
    .pause (fun _ => .sleep duration) fun _ =>
      turnThen (.run (recordProgram .nothing) (unlessFailed rest))
  | .wait label limit =>
    .pause
      (fun state =>
        match state.handles.find? label with
        | some cell => .settled cell (some limit)
        | none => .turn)
      fun answer => turnThen (.run (recordProgram (ofAnswer answer)) (unlessFailed rest))

def script (setup : Setup) (instructions : List Instruction) : Script State :=
  .run (setup.prepare.programWith fun _ => .ok .undefined)
    (unlessFailed (instructions.foldr (fun instruction rest => instruction.script rest)
      (.finish (.ok .undefined))))

/-- What is left of a scenario when its loop is gone. -/
structure Ending where
  outcome : Outcome
  output : String
  stats : TimerStats
  pending : Nat
  handles : List (String × HandleView)
  started : List (String × HandleView)

structure Transcript where
  /-- What happened before the first step, the reports of the steps, and what happened after them. -/
  setup : Report
  reports : List Report
  rest : Report
  ending : Ending

def endingOf (m : Machine State) : Ending :=
  let table := m.toWorld.scheduler m.memory.scheduler
  { outcome := m.outcome?.getD (.ok .undefined)
    output := (m.memory.host.slot mainOutput).describe
    stats := table.stats
    pending := table.pending.size
    handles := viewHandles m.memory m.toWorld
    started := viewStarted m.memory m.toWorld }

def transcriptOf? (m : Machine State) : Option Transcript :=
  match m.memory.reports.reverse with
  | [] => none
  | setup :: reports =>
    some ⟨setup, reports, m.memory.report m.toWorld .nothing, endingOf m⟩

/-- A bound on the steps of one scenario that no scenario which ends comes near. -/
def patience : Nat := 1000000000000

def play (mode : Mode) (setup : Setup) (instructions : List Instruction) : Option Transcript :=
  let machine := Machine.start setup.state (script setup instructions) (mode != .bare)
  let final? := match mode with
    | .drain => machine.run patience
    | .drainUnlessFailed => machine.tryRun patience
    | _ => machine.runAndLeave patience
  final?.bind transcriptOf?

end RuleHost.Scenario
