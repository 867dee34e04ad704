import RuleHost.Loop.Machine

/-! Whole runs of a script. A run goes on until the script has ended and, unless the script failed or
the loop is left at once, until every task it started has ended. Runs are bounded by a number of steps,
because a script may start tasks for ever. -/

namespace RuleHost.Loop.Machine

variable {σ : Type}

/-- A loop with a script that has not started, on a clock that shows 0. -/
def start (memory : σ) (script : Script σ) (attached : Bool := true) : Machine σ :=
  { memory, attached, script := .ready script }

def outcome? (m : Machine σ) : Option Outcome :=
  match m.script with
  | .ended outcome => some outcome
  | _ => none

def runScript : Nat → Machine σ → Option (Machine σ)
  | 0, _ => none
  | fuel + 1, m => if m.outcome?.isSome then some m else m.step?.bind (runScript fuel)

def settleAll : Nat → Machine σ → Option (Machine σ)
  | 0, _ => none
  | fuel + 1, m =>
    match m.step? with
    | none => some m
    | some next => settleAll fuel next

def isDrained (m : Machine σ) : Bool := m.tasks.all fun task => task.phase == .ended

/-- Takes the loop away: the tasks that are left are dropped unrun, and the timer tables stay. -/
def tearDown (m : Machine σ) : Machine σ :=
  { (List.range m.tasks.size).foldl discard m with ready := [], attached := false }

/-- Runs what the script left behind, and takes the loop away. A continuation that waits for a value
whose resolver is held outside the loop never ends, and then neither does the run. -/
def drain (fuel : Nat) (m : Machine σ) : Option (Machine σ) :=
  (settleAll fuel (m.note .draining)).bind fun m => if m.isDrained then some m.tearDown else none

/-- Runs a script to its end, however it ends, and then everything that it started. -/
def run (fuel : Nat) (m : Machine σ) : Option (Machine σ) := (runScript fuel m).bind (drain fuel)

/-- Like `run`, but a script that fails ends the run at once. -/
def tryRun (fuel : Nat) (m : Machine σ) : Option (Machine σ) :=
  (runScript fuel m).bind fun m =>
    match m.outcome? with
    | some (.ok _) => drain fuel m
    | _ => some m.tearDown

def runAndLeave (fuel : Nat) (m : Machine σ) : Option (Machine σ) :=
  (runScript fuel m).map tearDown

end RuleHost.Loop.Machine
