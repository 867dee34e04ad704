import RuleHost.Hello
import RuleHost.Scenario.Step

/-! What a scenario remembers: the host, what its labels stand for, and the reports of its steps. -/

namespace RuleHost.Scenario

open Loop

/-- One callback that was entered, with the results of its steps. -/
structure Event where
  label : String
  arguments : List Value
  time : Nat
  results : List Result := []

/-- What a step gave, and what happened while it ran. -/
structure Report where
  result : Result
  events : List Event
  lines : List String
  notices : List Notice

structure State where
  host : Host := {}
  registry : Registry := {}
  scheduler : SchedulerId := 0
  functions : Table String FunctionRef := .empty
  timers : Table String TimerId := .empty
  handles : Table String CellId := .empty
  /-- The resolvers that were neither used nor dropped. -/
  resolvers : Table String CellId := .empty
  started : Table String Hello.Started := .empty
  context : Option Context := none
  /-- The callbacks entered since the last report. -/
  events : Array Event := #[]
  /-- The reports so far, newest first. -/
  reports : List Report := []
  /-- How many lines and notices the reports so far hold. -/
  reportedLines : Nat := 0
  reportedNotices : Nat := 0

instance : HostMemory State where
  host := State.host
  setHost host state := { state with host }
  host_setHost _ _ := rfl
  setHost_host _ := rfl
  setHost_setHost _ _ _ := rfl

def mainOutput : SlotId := 0

/-- What has come to the front of a list since it had a length, oldest first. -/
def since {α : Type} (seen : Nat) (items : List α) : List α :=
  (items.take (items.length - seen)).reverse

/-- The report of everything since the last one. -/
def State.report (state : State) (world : World) (result : Result) : Report :=
  { result
    events := state.events.toList
    lines := since state.reportedLines state.host.console.kept
    notices := since state.reportedNotices world.notices }

def record (result : Result) : Act State Unit := do
  let world ← Act.look
  Act.modifyMemory fun state =>
    { state with
      reports := state.report world result :: state.reports
      events := #[]
      reportedLines := state.host.console.kept.length
      reportedNotices := world.notices.length }

def viewCell (cell : Cell) : HandleView :=
  match cell.state with
  | .pending _ => .pending
  | .resolved value _ => .resolved value
  | .abandoned => .abandoned

def viewHandle (world : World) (cell : CellId) : HandleView :=
  ((world.cell? cell).map viewCell).getD .abandoned

def sortByLabel {α : Type} (entries : List (String × α)) : List (String × α) :=
  entries.mergeSort fun a b => !decide (b.1 < a.1)

/-- The handles by label, as they look now. -/
def viewHandles (state : State) (world : World) : List (String × HandleView) :=
  sortByLabel (state.handles.entries.map fun entry => (entry.1, viewHandle world entry.2))

/-- The hello scripts by label, by the state of their delayed writes. -/
def viewStarted (state : State) (world : World) : List (String × HandleView) :=
  sortByLabel (state.started.entries.map fun entry => (entry.1, viewHandle world entry.2.timeout))

end RuleHost.Scenario
