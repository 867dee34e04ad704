import RuleHost.Scenario.State

/-! What each step of a scenario does. -/

namespace RuleHost.Scenario

open Loop

/-! ### Values -/

mutual

/-- The value of an expression where a callback runs with some arguments. -/
def Expr.eval (arguments : List Value) : Expr → Act State Value
  | .value literal => return literal
  | .list items => do return .list (← Expr.evalAll arguments items)
  | .function label => do
    match (← Act.memory).functions.find? label with
    | some ref => return .function ref
    | none => return .undefined
  | .newFunction name => do
    let id ← Act.define fun _ => return .undefined
    return .function ⟨id, name⟩
  | .argument index => return Arguments.orUndefined arguments index
  | .output => Host.output mainOutput

def Expr.evalAll (arguments : List Value) : List Expr → Act State (List Value)
  | [] => return []
  | item :: rest => do
    let value ← item.eval arguments
    let values ← Expr.evalAll arguments rest
    return value :: values

end

/-! ### Labels -/

/-- Puts a handle under a label and drops the one that was there. -/
def bindHandle (label : String) (cell : CellId) : Act State Unit := do
  let old := (← Act.memory).handles.find? label
  Act.modifyMemory fun state => { state with handles := state.handles.insert label cell }
  match old with
  | some old => Act.perform (.dropHandle old)
  | none => return

/-- Puts a resolver under a label and drops the one that was there. -/
def bindResolver (label : String) (cell : CellId) : Act State Unit := do
  let old := (← Act.memory).resolvers.find? label
  Act.modifyMemory fun state => { state with resolvers := state.resolvers.insert label cell }
  match old with
  | some old => Act.perform (.dropResolver old)
  | none => return

/-- Takes the resolver away from a label. -/
def takeResolver (label : String) : Act State (Option CellId) := do
  let cell := (← Act.memory).resolvers.find? label
  Act.modifyMemory fun state => { state with resolvers := state.resolvers.erase label }
  return cell

/-- Does something with the handle under a label, if there is one. -/
def withHandle (label : String) (use : CellId → Act State Result) : Act State Result := do
  match (← Act.memory).handles.find? label with
  | some cell => use cell
  | none => return .nothing

def bindStarted (label : String) : Option CellId → Act State Result
  | none => return .detached
  | some cell => do
    bindHandle label cell
    return .nothing

def timerId? (timer : TimerName) : Act State (Option TimerId) := do
  match timer with
  | .label label => return (← Act.memory).timers.find? label
  | .number number => return some ⟨number⟩

def timerTable : Act State TimerTable := do
  return (← Act.look).scheduler (← Act.memory).scheduler

def counter (counted : Bool) : Act State (Option SchedulerId) := do
  let scheduler := (← Act.memory).scheduler
  return if counted then some scheduler else none

def withContext (use : Context → Act State Result) : Act State Result := do
  match (← Act.memory).context with
  | some context => use context
  | none => return .nothing

def asResult : Outcome → Result
  | .ok value => .called (.ok value)
  | .error (.host error) => .called (.error error)
  | .error .detached => .detached

/-! ### Callbacks -/

/-- Runs a callback: its entry is recorded first, then its steps run, then it returns its value. -/
def callback (label : String) (steps : List Value → Act State (List Result)) (result : Expr)
    (arguments : List Value) : Act State Value := do
  let time := (← Act.look).now
  let index := (← Act.memory).events.size
  Act.modifyMemory fun state => { state with events := state.events.push { label, arguments, time } }
  let results ← steps arguments
  Act.modifyMemory fun state =>
    { state with events := state.events.modify index fun event => { event with results } }
  result.eval arguments

def registerFunction (function : HostFunction) : Act State Result := do
  let registry := (← Act.memory).registry
  Host.noteAll (registry.replaced function)
  Act.modifyMemory fun state => { state with registry := registry.register function }
  return .count (registry.register function).size

def ofArgument {α : Type} (toResult : α → Value) (read : Except HostError α) : Outcome :=
  match read with
  | .ok value => .ok (toResult value)
  | .error error => .error (.host error)

/-- The body of a host function that a step registers. -/
def Native.body (native : Native) (name : String) (constant : Value) (arguments : List Value) :
    Act State Outcome :=
  match native with
  | .constant _ => return .ok constant
  | .countArguments => return .ok (.int (Int64.ofNat arguments.length))
  | .stringArgument index => return ofArgument .string (Arguments.string name arguments index)
  | .integerArgument index => return ofArgument .int (Arguments.integer name arguments index)
  | .functionArgument index => return ofArgument .function (Arguments.function name arguments index)
  | .anyArgument index => return .ok (Arguments.orUndefined arguments index)
  | .fail failing message => return .error (.host (.collaborator failing message))
  | .callArgument index => do
    match Arguments.function name arguments index with
    | .ok ref => return .ok (← Act.callFunction ref arguments)
    | .error error => return .error (.host error)

/-- The value of a constant host function, taken when it is registered. -/
def Native.constantValue (native : Native) (arguments : List Value) : Act State Value :=
  match native with
  | .constant value => value.eval arguments
  | _ => return .undefined

def startMany : List Nat → Act State (Option (List Nat))
  | [] => return some []
  | duration :: rest => do
    match ← Act.setTimeout (← Act.memory).scheduler duration
      (Host.setOutput mainOutput (.string "fired")) with
    | none => return none
    | some id =>
      match ← startMany rest with
      | none => return none
      | some ids => return some (id.number :: ids)

def evalImports (arguments : List Value) :
    List (String × Expr) → Act State (List (String × Value))
  | [] => return []
  | (name, value) :: rest => do
    let value ← value.eval arguments
    let values ← evalImports arguments rest
    return (name, value) :: values

def debugSubject (subject : Subject) : Act State Result := do
  let state ← Act.memory
  let world ← Act.look
  let cellText := fun (cell : Option CellId) (text : Cell → String) =>
    match cell.bind world.cell? with
    | some cell => Result.text (text cell)
    | none => .nothing
  let scheduler := (world.scheduler state.scheduler).debug
  match subject with
  | .handle label => return cellText (state.handles.find? label) Cell.debug
  | .resolver label => return cellText (state.resolvers.find? label) Cell.debugResolver
  | .function label =>
    return match state.functions.find? label with
      | some ref => .text (Value.debugFunction ref)
      | none => .nothing
  | .hostFunction name =>
    return .text (match state.registry.find? name with
      | some function => s!"Some({function.debug})"
      | none => "None")
  | .registry => return .text state.registry.debug
  | .bindings => return .text "HostBindings \x7b .. \x7d"
  | .context =>
    return match state.context with
      | some context => .text (context.debug world state.host)
      | none => .nothing
  | .output => return .text (state.host.debugSlot mainOutput)
  | .stats => return .text (world.scheduler state.scheduler).stats.debug
  | .scheduler => return .text scheduler
  | .eventLoop =>
    return .text ("EventLoop \x7b scheduler: " ++ ({} : TimerTable).debug ++ ", .. \x7d")
  | .variable name => return .text (state.host.services.rule.output name).debug
  | .outcome label =>
    return match state.started.find? label with
      | some started => cellText (some started.timeout) started.debug
      | none => .nothing

/-! ### Steps -/

mutual

/-- Does one step, where a callback runs with some arguments. -/
def Step.run (arguments : List Value) : Step → Act State Result
  | .call name given => do
    let given ← Expr.evalAll arguments given
    return asResult (← Host.call (← Act.memory).registry name given)
  | .callFound name given => do
    let given ← Expr.evalAll arguments given
    match (← Act.memory).registry.find? name with
    | some function => return asResult (← Host.callFunction function given)
    | none => return .notFound
  | .register name arity native => do
    let constant ← native.constantValue arguments
    let id ← fun next => .define (fun given => (native.body name constant given).programWith id) next
    registerFunction { name, arity, body := .defined id }
  | .registerSteps name arity steps result => do
    let id ← Act.define (callback name (fun given => Step.runAll given steps) result)
    registerFunction { name, arity, body := .defined id }
  | .install => do
    let (notices, registry) := (← Act.memory).registry.install
    Host.noteAll notices
    Act.modifyMemory fun state => { state with registry }
    return .count registry.size
  | .functions => do
    let registry := (← Act.memory).registry
    return .functions (registry.functions.map fun f => (f.name, f.arity)) registry.isEmpty
  | .contains name => do return .flag ((← Act.memory).registry.contains name)
  | .lookUp name => do
    match (← Act.memory).registry.find? name with
    | some function => return .functionEntry function.name function.arity
    | none => return .nothing
  | .addThing thing => do
    Host.modify fun host =>
      { host with services := { host.services with things := host.services.things.add thing } }
    return .nothing
  | .setState thing state number value => do
    let value ← value.eval arguments
    Host.modify fun host =>
      { host with services := { host.services with
          things := host.services.things.setState thing ⟨state, number⟩ value } }
    return .nothing
  | .setInput name value => do
    let value ← value.eval arguments
    Host.modify fun host =>
      { host with services := { host.services with
          rule := host.services.rule.setInput name value } }
    return .nothing
  | .actions => do
    let actions := (← Host.get).services.things.executed
    return .actions (actions.map fun a => (a.thing, a.action, a.arguments))
  | .publish thing value => do
    let value ← value.eval arguments
    return .count (← Host.publish thing value)
  | .listeners thing => do return .numbers ((← Host.get).services.notifier.subscribed thing)
  | .namedOutput name => do return .value ((← Host.get).services.rule.output name)
  | .greeted => do return .texts (← Host.get).services.greeter.greeted
  | .define label name steps result => do
    let id ← Act.define (callback label (fun given => Step.runAll given steps) result)
    Act.modifyMemory fun state => { state with functions := state.functions.insert label ⟨id, name⟩ }
    return .nothing
  | .callFunction label given => do
    let given ← Expr.evalAll arguments given
    match (← Act.memory).functions.find? label with
    | some ref => return .value (← Act.callFunction ref given)
    | none => return .nothing
  | .equal first second => do
    let first ← first.eval arguments
    let second ← second.eval arguments
    return .flag (first.equals second)
  | .setOutput value => do
    Host.setOutput mainOutput (← value.eval arguments)
    return .nothing
  | .getOutput => do return .value (← Host.output mainOutput)
  | .describeOutput => do return .text (← Host.output mainOutput).describe
  | .log given => do
    Host.log (← Expr.evalAll arguments given)
    return .nothing
  | .lines => do return .texts (← Host.get).console.lines
  | .setTimeout label duration steps => do
    let run := callback label (fun given => Step.runAll given steps) (.value .undefined) []
    match ← Act.setTimeout (← Act.memory).scheduler duration (do let _ ← run; return) with
    | none => return .detached
    | some id =>
      Act.modifyMemory fun state => { state with timers := state.timers.insert label id }
      return .count id.number
  | .manyTimeouts durations => do
    match ← startMany durations with
    | none => return .detached
    | some ids => return .range (ids.head?.bind fun first => ids.getLast?.map fun last => (first, last))
  | .clearTimeout timer => do
    match ← timerId? timer with
    | some id => return .flag (← Act.perform (.clearTimeout (← Act.memory).scheduler id))
    | none => return .flag false
  | .timerState timer => do
    match ← timerId? timer with
    | some id =>
      match (← timerTable).state? id with
      | some state => return .timerState state
      | none => return .nothing
    | none => return .nothing
  | .pendingTimers => do return .count (← timerTable).pending.size
  | .stats => do return .stats (← timerTable).stats
  | .newScheduler => do
    let id ← Act.perform .newScheduler
    Act.modifyMemory fun state => { state with scheduler := id }
    return .nothing
  | .deferred label => do
    let cell ← Act.perform .newDeferred
    bindResolver label cell
    bindHandle label cell
    return .nothing
  | .resolved label value => do
    let cell ← Act.perform (.newResolved (← value.eval arguments))
    bindHandle label cell
    return .nothing
  | .cloneHandle source label => withHandle source fun cell => do
    Act.perform (.cloneHandle cell)
    bindHandle label cell
    return .nothing
  | .delay label duration value counted => do
    let value ← value.eval arguments
    bindStarted label (← Act.perform (.delay (← counter counted) duration value))
  | .attach source label steps result counted => withHandle source fun cell => do
    let body := fun value => callback label (fun given => Step.runAll given steps) result [value]
    bindStarted label (← Act.attach (← counter counted) cell body)
  | .resolve label value => do
    let value ← value.eval arguments
    match ← takeResolver label with
    | some cell =>
      Act.perform (.resolve cell value)
      return .flag true
    | none => return .flag false
  | .dropResolver label => do
    match ← takeResolver label with
    | some cell =>
      Act.perform (.dropResolver cell)
      return .flag true
    | none => return .flag false
  | .dropHandle label => do
    match (← Act.memory).handles.find? label with
    | some cell =>
      Act.modifyMemory fun state => { state with handles := state.handles.erase label }
      Act.perform (.dropHandle cell)
      return .flag true
    | none => return .flag false
  | .isObserved label => do
    match ((← Act.memory).resolvers.find? label).bind (← Act.look).cell? with
    | some cell => return .flag cell.isObserved
    | none => return .nothing
  | .peek label => withHandle label fun cell => do return .handle (viewHandle (← Act.look) cell)
  | .handles => do return .handles (viewHandles (← Act.memory) (← Act.look))
  | .context imports ownOutput => do
    let imports ← evalImports arguments imports
    let output ← if ownOutput then Host.newSlot else pure mainOutput
    Act.modifyMemory fun state =>
      { state with
        context := some ⟨state.scheduler, state.registry, Context.importsOf imports, output⟩ }
    return .nothing
  | .contextCall name given => withContext fun context => do
    let given ← Expr.evalAll arguments given
    return asResult (← Host.call context.globals name given)
  | .contextLog given => withContext fun _ => do
    Host.log (← Expr.evalAll arguments given)
    return .nothing
  | .contextImport name => withContext fun context => do return .value (context.imported name)
  | .contextOutput => withContext fun context => do
    return .text (← Host.output context.output).describe
  | .contextStats => withContext fun context => do
    return .stats ((← Act.look).scheduler context.scheduler).stats
  | .hello duration label => withContext fun context => do
    match ← (Hello.run context duration).run with
    | .ok started =>
      Act.modifyMemory fun state => { state with started := state.started.insert label started }
      return .subscription started.subscription
    | .error (.host error) => return .called (.error error)
    | .error .detached => return .detached
  | .outcome label => do
    match (← Act.memory).started.find? label with
    | some started => return .outcome (viewHandle (← Act.look) started.timeout)
    | none => return .nothing
  | .debug subject => debugSubject subject

/-- Does steps one after the other and lists their results. -/
def Step.runAll (arguments : List Value) : List Step → Act State (List Result)
  | [] => return []
  | step :: rest => do
    let result ← Step.run arguments step
    let results ← Step.runAll arguments rest
    return result :: results

end

end RuleHost.Scenario
