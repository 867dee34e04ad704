import RuleHost.Loop.Program

/-! The loop as a machine that takes one small step at a time. Tasks that are ready run in the order in
which they became ready; the clock moves only when nothing is ready, and then to the earliest deadline.
A script that waits is looked at when it starts to wait, when nothing is ready, and when the clock has
moved, before the tasks that became due. -/

namespace RuleHost.Loop

inductive TimerEffect (σ : Type) where
  | run (callback : Program σ)
  | resolve (target : CellId) (value : Value)

inductive Job (σ : Type) where
  | timer (scheduler : SchedulerId) (id : TimerId) (duration : Nat) (effect : TimerEffect σ)
  | delay (duration : Nat) (target : CellId) (value : Value)
  | continuation (counter : Option SchedulerId) (source target : CellId)
      (body : Value → Program σ)

/-- How far a task has come. A fresh or cancelled task is in the queue, and so is a sleeping one whose
deadline has come and a waiting one whose source is settled. -/
inductive Phase where
  | fresh
  | sleeping (deadline : Nat)
  | waiting
  | cancelled
  | ended
deriving DecidableEq

structure Task (σ : Type) where
  job : Job σ
  phase : Phase
  born : Nat

def Task.awaits {σ : Type} (task : Task σ) (cell : CellId) : Bool :=
  match task.phase, task.job with
  | .waiting, .continuation _ source _ _ => source == cell
  | _, _ => false

def Task.deadline? {σ : Type} (task : Task σ) : Option Nat :=
  match task.phase with
  | .sleeping deadline => some deadline
  | _ => none

/-- What becomes of the outcome of the program that is running. -/
inductive Owner (σ : Type) where
  | script (next : Outcome → Script σ)
  | callback
  | continuation (source target : CellId)

inductive Focus (σ : Type) where
  | idle
  | program (body : Program σ) (owner : Owner σ)

/-- A wait with its deadlines on the clock of the loop. -/
inductive Alarm where
  | turn
  | clock (deadline : Nat)
  | settled (cell : CellId) (limit : Option Nat)

inductive Progress (σ : Type) where
  | ready (script : Script σ)
  | busy
  | waiting (alarm : Alarm) (next : Answer → Script σ)
  | ended (outcome : Outcome)

structure Machine (σ : Type) extends World where
  memory : σ
  functions : Array (List Value → Program σ) := #[]
  tasks : Array (Task σ) := #[]
  ready : List TaskId := []
  focus : Focus σ := .idle
  script : Progress σ

namespace Machine

variable {σ : Type}

def tasksWhere (m : Machine σ) (property : Task σ → Bool) : List TaskId :=
  (List.range m.tasks.size).filter fun id => m.tasks[id]?.any property

def setPhase (m : Machine σ) (id : TaskId) (phase : Phase) : Machine σ :=
  { m with tasks := m.tasks.modify id fun task => { task with phase := phase } }

def setScheduler (m : Machine σ) (id : SchedulerId) (table : TimerTable) : Machine σ :=
  { m with schedulers := m.schedulers.setIfInBounds id table }

def enter (m : Machine σ) (entry : Entry) : Machine σ := { m with entries := entry :: m.entries }

def note (m : Machine σ) (notice : Notice) : Machine σ := { m with notices := notice :: m.notices }

def spawn (m : Machine σ) (job : Job σ) : Machine σ :=
  { m with
    tasks := m.tasks.push ⟨job, .fresh, m.now⟩
    ready := m.ready ++ [m.tasks.size] }

/-! ### Deferred values -/

def newCell (m : Machine σ) (state : CellState) : CellId × Machine σ :=
  (m.cells.size, { m with cells := m.cells.push { state } })

/-- Settles a pending deferred value and queues the continuations that wait for it. -/
def settle (m : Machine σ) (cell : CellId) (state : CellState) : Machine σ :=
  if (m.cells[cell]?).any Cell.isPending then
    { m with
      cells := m.cells.modify cell fun c => { c with state := state }
      ready := m.ready ++ m.tasksWhere fun task => task.awaits cell }
  else m

def resolve (m : Machine σ) (cell : CellId) (value : Value) : Machine σ :=
  m.settle cell (.resolved value m.now)

def abandon (m : Machine σ) (cell : CellId) : Machine σ := m.settle cell .abandoned

def retain (m : Machine σ) (cell : CellId) : Machine σ :=
  { m with cells := m.cells.modify cell fun c => { c with handles := c.handles + 1 } }

def release (m : Machine σ) (cell : CellId) : Machine σ :=
  { m with cells := m.cells.modify cell fun c => { c with handles := c.handles - 1 } }

/-! ### Timers -/

/-- Whether a task can be started, on behalf of a scheduler if one is given: a loop runs, and there is
such a scheduler. -/
def hosts (m : Machine σ) (counter : Option SchedulerId) : Bool :=
  m.attached && counter.all fun scheduler => scheduler < m.schedulers.size

/-- Starts a timer. Where no loop runs its number is used up and nothing else happens. -/
def startTimer (m : Machine σ) (scheduler : SchedulerId) (duration : Nat) (effect : TimerEffect σ) :
    Option TimerId × Machine σ :=
  let table := m.toWorld.scheduler scheduler
  if m.hosts (some scheduler) then
    let (id, table) := table.schedule m.tasks.size
    let m := (m.setScheduler scheduler table).spawn (.timer scheduler id duration effect)
    (some id, m.note (.timerScheduled id duration))
  else (none, m.setScheduler scheduler table.reserve)

/-- Starts a delay, as a timer of a scheduler if one is given, and hands out the value's handle. -/
def startDelay (m : Machine σ) (counter : Option SchedulerId) (duration : Nat) (value : Value) :
    Option CellId × Machine σ :=
  if m.hosts counter then
    let (cell, m) := m.newCell (.pending .task)
    match counter with
    | some scheduler => (some cell, (m.startTimer scheduler duration (.resolve cell value)).2)
    | none => (some cell, m.spawn (.delay duration cell value))
  else
    match counter with
    | some scheduler => (none, m.setScheduler scheduler (m.toWorld.scheduler scheduler).reserve)
    | none => (none, m)

/-- Clears a pending timer. Its task is dropped when its turn comes, so it is queued if it slept. -/
def clearTimer (m : Machine σ) (scheduler : SchedulerId) (id : TimerId) : Bool × Machine σ :=
  match (m.toWorld.scheduler scheduler).clear? id with
  | none => (false, m)
  | some (task, table) =>
    let m := (m.setScheduler scheduler table).note (.timerCancelled id)
    if (m.tasks[task]?).any fun t => t.phase == .ended then (true, m)
    else
      let m := m.setPhase task .cancelled
      (true, if m.ready.contains task then m else { m with ready := m.ready ++ [task] })

/-- Starts a continuation of a deferred value that exists, which it holds on to until it has run or is
dropped. -/
def startContinuation (m : Machine σ) (counter : Option SchedulerId) (source : CellId)
    (body : Value → Program σ) : Option CellId × Machine σ :=
  if m.hosts counter && source < m.cells.size then
    let (target, m) := (m.retain source).newCell (.pending .task)
    (some target, m.spawn (.continuation counter source target body))
  else (none, m)

/-! ### Running programs -/

def perform (m : Machine σ) (request : Request) : request.Reply × Machine σ :=
  match request with
  | .look => (m.toWorld, m)
  | .note notice => ((), m.note notice)
  | .newScheduler => (m.schedulers.size, { m with schedulers := m.schedulers.push {} })
  | .clearTimeout scheduler id => m.clearTimer scheduler id
  | .delay counter duration value => m.startDelay counter duration value
  | .newDeferred => m.newCell (.pending .program)
  | .newResolved value => m.newCell (.resolved value m.now)
  | .resolve cell value =>
    ((), if (m.cells[cell]?).any Cell.isOpen then m.resolve cell value else m)
  | .dropResolver cell => ((), if (m.cells[cell]?).any Cell.isOpen then m.abandon cell else m)
  | .cloneHandle cell => ((), m.retain cell)
  | .dropHandle cell => ((), m.release cell)

def proceed (m : Machine σ) (body : Program σ) (owner : Owner σ) : Machine σ :=
  { m with focus := .program body owner }

/-- Hands the outcome of a program to whoever waits for it. A continuation that does not end with a
value abandons what it owes. -/
def conclude (m : Machine σ) (outcome : Outcome) (owner : Owner σ) : Machine σ :=
  let m := { m with focus := .idle }
  match owner with
  | .script next => { m with script := .ready (next outcome) }
  | .callback => m
  | .continuation source target =>
    match outcome with
    | .ok value => (m.resolve target value).release source
    | .error _ => (m.abandon target).release source

def execute (m : Machine σ) (owner : Owner σ) : Program σ → Machine σ
  | .finish outcome => m.conclude outcome owner
  | .read next => m.proceed (next m.memory) owner
  | .write memory next => { m with memory := memory }.proceed next owner
  | .perform request next =>
    let (reply, m) := m.perform request
    m.proceed (next reply) owner
  | .define body next =>
    { m with functions := m.functions.push body }.proceed (next m.functions.size) owner
  | .call function arguments next =>
    match m.functions[function]? with
    | some body =>
      (m.enter (.function function arguments m.now)).proceed
        ((body arguments).andThen next) owner
    | none => m.proceed (next (.ok .undefined)) owner
  | .setTimeout scheduler duration callback next =>
    let (id, m) := m.startTimer scheduler duration (.run callback)
    m.proceed (next id) owner
  | .attach counter source body next =>
    let (target, m) := m.startContinuation counter source body
    m.proceed (next target) owner

/-! ### Running tasks -/

/-- Drops a task unrun: what it was to resolve is abandoned. -/
def discard (m : Machine σ) (id : TaskId) : Machine σ :=
  match m.tasks[id]? with
  | none => m
  | some task =>
    if task.phase == .ended then m
    else
      let m := m.setPhase id .ended
      match task.job with
      | .timer _ _ _ (.run _) => m
      | .timer _ _ _ (.resolve target _) => m.abandon target
      | .delay _ target _ => m.abandon target
      | .continuation _ source target _ => (m.abandon target).release source

/-- Lets a timer do what it is for, unless it has left the table. -/
def fire (m : Machine σ) (id : TaskId) (scheduler : SchedulerId) (timer : TimerId)
    (effect : TimerEffect σ) : Machine σ :=
  let m := m.setPhase id .ended
  match (m.toWorld.scheduler scheduler).fire? timer with
  | none => m
  | some table =>
    let m := ((m.setScheduler scheduler table).note (.timerFired timer)).enter
      (.timer scheduler timer m.now)
    match effect with
    | .run callback => m.proceed callback .callback
    | .resolve target value => m.resolve target value

def startBody (m : Machine σ) (id : TaskId) (counter : Option SchedulerId) (source target : CellId)
    (body : Value → Program σ) (value : Value) : Machine σ :=
  let m := (m.setPhase id .ended).enter (.continuation source target value m.now)
  let m := match counter with
    | some scheduler => m.setScheduler scheduler (m.toWorld.scheduler scheduler).countContinuation
    | none => m
  m.proceed (body value) (.continuation source target)

/-- Gives a task its turn. The first turn of a timer or a delay starts its clock. -/
def poll (m : Machine σ) (id : TaskId) : Machine σ :=
  match m.tasks[id]? with
  | none => m
  | some task =>
    match task.phase with
    | .ended => m
    | .cancelled => m.discard id
    | _ =>
      match task.job with
      | .timer scheduler timer duration effect =>
        let deadline := task.deadline?.getD (m.now + duration)
        if deadline ≤ m.now then m.fire id scheduler timer effect
        else m.setPhase id (.sleeping deadline)
      | .delay duration target value =>
        let deadline := task.deadline?.getD (m.now + duration)
        if deadline ≤ m.now then
          ((m.setPhase id .ended).enter (.delay target m.now)).resolve target value
        else m.setPhase id (.sleeping deadline)
      | .continuation counter source target body =>
        match (m.cells[source]?).map Cell.state with
        | some (.resolved value _) => m.startBody id counter source target body value
        | some (.pending _) => m.setPhase id .waiting
        | _ => m.discard id

/-! ### Waiting -/

def arm (m : Machine σ) : Wait → Alarm
  | .turn => .turn
  | .sleep duration => .clock (m.now + duration)
  | .settled cell limit => .settled cell (limit.map (m.now + ·))

/-- What a wait ends with, if it is over. A value that has come wins over a limit that is reached. -/
def answer? (m : Machine σ) : Alarm → Option Answer
  | .turn => if m.ready.isEmpty then some .done else none
  | .clock deadline => if deadline ≤ m.now then some .done else none
  | .settled cell limit =>
    match (m.cells[cell]?).map Cell.state with
    | some (.resolved value _) => some (.value value)
    | some (.pending _) => if limit.any (· ≤ m.now) then some .limit else none
    | _ => some .abandoned

def resume (m : Machine σ) : Machine σ :=
  match m.script with
  | .waiting alarm next =>
    match m.answer? alarm with
    | some answer => { m with script := .ready (next answer) }
    | none => m
  | _ => m

def advance (m : Machine σ) : Script σ → Machine σ
  | .finish outcome => { m with script := .ended outcome }
  | .run body next => { m with script := .busy }.proceed body (.script next)
  | .pause wait next =>
    { m with script := .waiting (m.arm (wait m.memory)) next }.resume

def deadlines (m : Machine σ) : List Nat :=
  let alarm := match m.script with
    | .waiting (.clock deadline) _ => some deadline
    | .waiting (.settled _ limit) _ => limit
    | _ => none
  m.tasks.toList.filterMap Task.deadline? ++ alarm.toList

/-- Moves the clock and queues the tasks that become due; the script is looked at before they run. -/
def elapse (m : Machine σ) (time : Nat) : Machine σ :=
  { m with
    now := time
    ready := m.ready ++ m.tasksWhere fun task => task.deadline?.any (· ≤ time) }.resume

/-- One step of the loop with nothing running: the next ready task, or the script, or the clock. -/
def turn? (m : Machine σ) : Option (Machine σ) :=
  match m.ready with
  | id :: rest => some ({ m with ready := rest }.poll id)
  | [] =>
    match m.script with
    | .waiting alarm _ =>
      if (m.answer? alarm).isSome then some m.resume
      else m.deadlines.min?.map m.elapse
    | _ => m.deadlines.min?.map m.elapse

/-- One step of the machine, or nothing if there is nothing left to do. -/
def step? (m : Machine σ) : Option (Machine σ) :=
  match m.focus with
  | .program body owner => some (m.execute owner body)
  | .idle =>
    match m.script with
    | .ready script => some (m.advance script)
    | .busy => none
    | _ => m.turn?

end Machine
end RuleHost.Loop
