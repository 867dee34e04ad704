import RuleHost.Proofs.ActCongruence
import RuleHost.Proofs.AlikeScenarios
import RuleHost.Scenario.Play

/-! What the steps of a scenario are made of. A relation between acts that is kept by the few kinds of acts in them
holds between the steps themselves, and also between steps that differ in who counts the continuations that they
attach, in callbacks inside callbacks too. -/

namespace RuleHost.Scenario

open Loop
open Act.Congruence (bindSame)

def Step.isFlat : Step → Bool
  | .registerSteps .. | .define .. | .setTimeout .. | .attach .. => false
  | _ => true

inductive Step.Recounted : Step → Step → Prop where
  | flat (step : Step) (flat : step.isFlat = true) : Recounted step step
  | registerSteps (name : String) (arity : Nat) {steps other : List Step}
      (bodies : List.Forall₂ Step.Recounted steps other) (result : Expr) :
      Recounted (.registerSteps name arity steps result) (.registerSteps name arity other result)
  | define (label name : String) {steps other : List Step} (bodies : List.Forall₂ Step.Recounted steps other)
      (result : Expr) : Recounted (.define label name steps result) (.define label name other result)
  | setTimeout (label : String) (duration : Nat) {steps other : List Step}
      (bodies : List.Forall₂ Step.Recounted steps other) :
      Recounted (.setTimeout label duration steps) (.setTimeout label duration other)
  | attach (source label : String) {steps other : List Step} (bodies : List.Forall₂ Step.Recounted steps other)
      (result : Expr) (counted recounted : Bool) :
      Recounted (.attach source label steps result counted) (.attach source label other result recounted)

mutual

theorem Step.Recounted.refl (step : Step) : step.Recounted step := by
  cases step with
  | registerSteps name arity steps result => exact .registerSteps name arity (Step.Recounted.all steps) result
  | define label name steps result => exact .define label name (Step.Recounted.all steps) result
  | setTimeout label duration steps => exact .setTimeout label duration (Step.Recounted.all steps)
  | attach source label steps result counted =>
    exact .attach source label (Step.Recounted.all steps) result counted counted
  | _ => exact .flat _ rfl

theorem Step.Recounted.all (steps : List Step) : List.Forall₂ Step.Recounted steps steps := by
  cases steps with
  | nil => exact .nil
  | cons step rest => exact .cons (Step.Recounted.refl step) (Step.Recounted.all rest)

end

/-- A change of what a scenario remembers beside its reports, its host and its scheduler. -/
def State.Aside (change : State → State) : Prop :=
  ∀ state events reports, change { state with events, reports } = { change state with events, reports } ∧
    (change state).host = state.host ∧ (change state).scheduler = state.scheduler

/-- A relation between acts that is kept by what the steps of scenarios do. Acts are compared in memories and worlds
that may differ in counts. -/
structure Congruence extends Act.Congruence State where
  reading : ∀ {α : Type} {related : α → α → Prop} {rest other : State → Act State α},
    (∀ a b, a.Alike b → Relates related (rest a) (other b)) →
      Relates related (Act.memory >>= rest) (Act.memory >>= other)
  looking : ∀ {α : Type} {related : α → α → Prop} {rest other : World → Act State α},
    (∀ w v, w.uncounted = v.uncounted → Relates related (rest w) (other v)) →
      Relates related (Act.look >>= rest) (Act.look >>= other)
  update : ∀ {change other : State → State}, (∀ a b, a.Alike b → (change a).Alike (other b)) →
    (∀ state, (change state).host = state.host ∧ (change state).scheduler = state.scheduler) →
      Relates Eq (Act.modifyMemory change) (Act.modifyMemory other)
  newScheduler : Relates Eq
    (do let id ← Act.perform .newScheduler; Act.modifyMemory fun state => { state with scheduler := id })
    (do let id ← Act.perform .newScheduler; Act.modifyMemory fun state => { state with scheduler := id })
  attachCounted : ∀ (counted recounted : Bool) (cell : CellId) {body other : Value → Act State Value},
    (∀ value, Relates Eq (body value) (other value)) →
      Relates Eq (do Act.attach (← counter counted) cell body) (do Act.attach (← counter recounted) cell other)

namespace Congruence

variable (rules : Congruence) {α : Type} {related : α → α → Prop}

/-- What follows a look at the memory may depend on all but what was told. -/
theorem memory {rest other : State → Act State α}
    (blind : ∀ state events reports, other { state with events, reports } = other state)
    (following : ∀ state, rules.Relates related (rest state) (other state)) :
    rules.Relates related (Act.memory >>= rest) (Act.memory >>= other) := by
  apply rules.reading
  rintro a b ⟨⟩
  rw [blind]
  exact following a

/-- What follows a look at the loop may depend on all but the timer tables. -/
theorem look {rest other : World → Act State α}
    (blind : ∀ world schedulers, other { world with schedulers } = other world)
    (following : ∀ world, rules.Relates related (rest world) (other world)) :
    rules.Relates related (Act.look >>= rest) (Act.look >>= other) := by
  apply rules.looking
  intro w v same
  rw [World.eq_of_uncounted same, blind]
  exact following w

theorem keeps_update {change : State → State} (aside : State.Aside change) :
    rules.Keeps (Act.modifyMemory change) := by
  refine rules.update (fun a b alike => ?_) fun state => (aside state #[] []).2
  cases alike with
  | @of events reports entered reported =>
    have same : change a = { change a with events := a.events, reports := a.reports } :=
      (aside a a.events a.reports).1
    rw [(aside a events reports).1, same]
    exact .of { change a with events := a.events, reports := a.reports } entered reported

def Tells (act other : Act State Result) : Prop := rules.Relates Result.Alike act other

variable {rules}

theorem tells_pure (result : Result) : rules.Tells (pure result) (pure result) := rules.pure (.same result)

/-- An act tells what is made of a result that does not depend on counts. -/
theorem tells {act : Act State α} (kept : rules.Keeps act) (result : α → Result) :
    rules.Tells (do return result (← act)) (do return result (← act)) :=
  kept.bind fun value => tells_pure (result value)

theorem tells_update {change : State → State} (aside : State.Aside change) (result : Result) :
    rules.Tells (do Act.modifyMemory change; return result) (do Act.modifyMemory change; return result) :=
  tells (rules.keeps_update aside) fun _ => result

variable (rules)

mutual

theorem keeps_eval (arguments : List Value) : (item : Expr) → rules.Keeps (item.eval arguments)
  | .value _ => rules.pure rfl
  | .list items => (keeps_evalAll arguments items).bind fun _ => rules.pure rfl
  | .function label => by
    rw [Expr.eval]
    refine rules.memory (fun _ _ _ => rfl) fun state => ?_
    cases state.functions.find? label <;> exact rules.pure rfl
  | .newFunction _ => bindSame (rules.define .ok fun _ => rules.pure rfl) fun _ => rules.pure rfl
  | .argument _ => rules.pure rfl
  | .output => rules.keeps_output _

theorem keeps_evalAll (arguments : List Value) : (items : List Expr) → rules.Keeps (Expr.evalAll arguments items)
  | [] => rules.pure rfl
  | item :: rest =>
    (keeps_eval arguments item).bind fun _ => (keeps_evalAll arguments rest).bind fun _ => rules.pure rfl

end

theorem keeps_bindHandle (label : String) (cell : CellId) : rules.Keeps (bindHandle label cell) := by
  refine rules.memory (fun _ _ _ => rfl) fun state => ?_
  refine (rules.keeps_update (by exact fun _ _ _ => ⟨rfl, rfl, rfl⟩)).bind fun _ => ?_
  cases state.handles.find? label with
  | some old => exact rules.keeps_perform (.dropHandle old) nofun
  | none => exact rules.pure rfl

theorem keeps_bindResolver (label : String) (cell : CellId) : rules.Keeps (bindResolver label cell) := by
  refine rules.memory (fun _ _ _ => rfl) fun state => ?_
  refine (rules.keeps_update (by exact fun _ _ _ => ⟨rfl, rfl, rfl⟩)).bind fun _ => ?_
  cases state.resolvers.find? label with
  | some old => exact rules.keeps_perform (.dropResolver old) nofun
  | none => exact rules.pure rfl

theorem keeps_takeResolver (label : String) : rules.Keeps (takeResolver label) :=
  rules.memory (fun _ _ _ => rfl) fun _ =>
    (rules.keeps_update (by exact fun _ _ _ => ⟨rfl, rfl, rfl⟩)).bind fun _ => rules.pure rfl

theorem keeps_timerId? (timer : TimerName) : rules.Keeps (timerId? timer) := by
  cases timer with
  | label => exact rules.memory (fun _ _ _ => rfl) fun _ => rules.pure rfl
  | number => exact rules.pure rfl

theorem keeps_counter (counted : Bool) : rules.Keeps (counter counted) :=
  rules.memory (fun _ _ _ => rfl) fun _ => rules.pure rfl

theorem keeps_body (native : Native) (name : String) (constant : Value) (arguments : List Value) :
    rules.Keeps (native.body name constant arguments) := by
  cases native with
  | callArgument index =>
    rw [Native.body]
    cases Arguments.function name arguments index with
    | ok ref => exact (rules.keeps_callFunction ref arguments).bind fun _ => rules.pure rfl
    | error error => exact rules.pure rfl
  | constant | countArguments | stringArgument | integerArgument | functionArgument | anyArgument | fail =>
    exact rules.pure rfl

theorem keeps_constantValue (native : Native) (arguments : List Value) :
    rules.Keeps (native.constantValue arguments) := by
  cases native with
  | constant value => exact rules.keeps_eval arguments value
  | countArguments | stringArgument | integerArgument | functionArgument | anyArgument | fail
  | callArgument => exact rules.pure rfl

theorem keeps_startMany (durations : List Nat) : rules.Keeps (startMany durations) := by
  induction durations with
  | nil => exact rules.pure rfl
  | cons duration rest ih =>
    refine rules.memory (fun _ _ _ => rfl) fun state => ?_
    refine bindSame (rules.setTimeout _ _ (rules.keeps_setOutput _ _)) fun started => ?_
    cases started with
    | none => exact rules.pure rfl
    | some id =>
      refine ih.bind fun others => ?_
      cases others <;> exact rules.pure rfl

theorem keeps_evalImports (arguments : List Value) (imports : List (String × Expr)) :
    rules.Keeps (evalImports arguments imports) := by
  induction imports with
  | nil => exact rules.pure rfl
  | cons entry rest ih =>
    exact (rules.keeps_eval arguments entry.2).bind fun _ => ih.bind fun _ => rules.pure rfl

variable {rules}

theorem tells_withHandle {label : String} {use other : CellId → Act State Result}
    (tells : ∀ cell, rules.Tells (use cell) (other cell)) :
    rules.Tells (withHandle label use) (withHandle label other) := by
  refine rules.memory (fun _ _ _ => rfl) fun state => ?_
  cases state.handles.find? label with
  | some cell => exact tells cell
  | none => exact tells_pure .nothing

theorem tells_withContext {use : Context → Act State Result}
    (tells : ∀ context, rules.Tells (use context) (use context)) :
    rules.Tells (withContext use) (withContext use) := by
  refine rules.memory (fun _ _ _ => rfl) fun state => ?_
  cases state.context with
  | some context => exact tells context
  | none => exact tells_pure .nothing

variable (rules)

theorem tells_bindStarted (label : String) (cell? : Option CellId) :
    rules.Tells (bindStarted label cell?) (bindStarted label cell?) := by
  cases cell? with
  | none => exact tells_pure _
  | some cell => exact tells (rules.keeps_bindHandle label cell) fun _ => .nothing

theorem tells_registerFunction (function : HostFunction) :
    rules.Tells (registerFunction function) (registerFunction function) := by
  refine rules.memory (fun _ _ _ => rfl) fun state => ?_
  refine (rules.keeps_noteAll _).bind fun _ => ?_
  exact tells_update (by exact fun _ _ _ => ⟨rfl, rfl, rfl⟩) _

/-- The debug texts of statistics and of what holds them are the only ones that tell counts. -/
theorem tells_debugSubject (subject : Subject) : rules.Tells (debugSubject subject) (debugSubject subject) := by
  refine rules.memory (fun _ _ _ => rfl) fun state => ?_
  apply rules.looking
  intro w v same
  have table := World.scheduler_uncounted same state.scheduler
  obtain ⟨schedulers, rfl⟩ : ∃ schedulers, v = { w with schedulers } := ⟨_, World.eq_of_uncounted same⟩
  cases subject with
  | stats => exact rules.pure (.statsText (TimerTable.stats_uncounted table))
  | scheduler => exact rules.pure (.tableText table)
  | context =>
    dsimp only
    cases state.context with
    | some context => exact rules.pure (.contextText context same state.host)
    | none => exact tells_pure .nothing
  | _ => exact tells_pure _

variable {rules}

/-- What follows a look at the timer table may not depend on its counts. -/
theorem tells_timerTable {rest : TimerTable → Act State Result}
    (tells : ∀ table other, table.uncounted = other.uncounted → rules.Tells (rest table) (rest other)) :
    rules.Tells (timerTable >>= rest) (timerTable >>= rest) := by
  have looked : rules.Relates (fun table other => table.uncounted = other.uncounted) timerTable timerTable := by
    apply rules.looking
    intro w v same
    exact rules.memory (fun _ _ _ => rfl) fun state => rules.pure (World.scheduler_uncounted same state.scheduler)
  exact rules.bind looked (fun _ => rfl) tells

theorem tells_stats {table other : TimerTable} (same : table.uncounted = other.uncounted) :
    rules.Tells (Pure.pure (.stats table.stats)) (Pure.pure (.stats other.stats)) :=
  rules.pure (.stats (TimerTable.stats_uncounted same))

/-- A step that defines no callback tells the same but for counts. -/
theorem tells_flat (arguments : List Value) : (step : Step) → step.isFlat = true →
    rules.Tells (step.run arguments) (step.run arguments)
  | .call name given, _ =>
    (rules.keeps_evalAll arguments given).bind fun _ => rules.memory (fun _ _ _ => rfl) fun state =>
      tells (rules.keeps_call state.registry name _) asResult
  | .callFound name given, _ => by
    rw [Step.run]
    refine (rules.keeps_evalAll arguments given).bind fun given => rules.memory (fun _ _ _ => rfl) fun state => ?_
    cases state.registry.find? name with
    | some function => exact tells (rules.keeps_hostFunction function given) asResult
    | none => exact tells_pure .notFound
  | .register name arity native, _ =>
    (rules.keeps_constantValue native arguments).bind fun constant =>
      bindSame (rules.define id fun given => rules.keeps_body native name constant given) fun _ =>
        rules.tells_registerFunction _
  | .install, _ =>
    rules.memory (fun _ _ _ => rfl) fun _ => (rules.keeps_noteAll _).bind fun _ =>
      tells_update (by exact fun _ _ _ => ⟨rfl, rfl, rfl⟩) _
  | .functions, _ | .contains _, _ => rules.memory (fun _ _ _ => rfl) fun _ => tells_pure _
  | .lookUp name, _ => by
    rw [Step.run]
    refine rules.memory (fun _ _ _ => rfl) fun state => ?_
    cases state.registry.find? name <;> exact tells_pure _
  | .addThing thing, _ => tells (rules.modify (by intro; rfl)) fun _ => .nothing
  | .setState thing state number value, _ =>
    (rules.keeps_eval arguments value).bind fun _ => tells (rules.modify (by intro; rfl)) fun _ => .nothing
  | .setInput name value, _ =>
    (rules.keeps_eval arguments value).bind fun _ => tells (rules.modify (by intro; rfl)) fun _ => .nothing
  | .actions, _ | .listeners _, _ | .namedOutput _, _ | .greeted, _ | .lines, _ => tells rules.get _
  | .publish thing value, _ =>
    (rules.keeps_eval arguments value).bind fun _ => tells (rules.keeps_publish thing _) .count
  | .callFunction label given, _ => by
    rw [Step.run]
    refine (rules.keeps_evalAll arguments given).bind fun given => rules.memory (fun _ _ _ => rfl) fun state => ?_
    cases state.functions.find? label with
    | some ref => exact tells (rules.keeps_callFunction ref given) .value
    | none => exact tells_pure .nothing
  | .equal first second, _ =>
    (rules.keeps_eval arguments first).bind fun _ => tells (rules.keeps_eval arguments second) _
  | .setOutput value, _ =>
    (rules.keeps_eval arguments value).bind fun _ => tells (rules.keeps_setOutput _ _) fun _ => .nothing
  | .getOutput, _ | .describeOutput, _ => tells (rules.keeps_output _) _
  | .log given, _ =>
    (rules.keeps_evalAll arguments given).bind fun _ => tells (rules.keeps_log _) fun _ => .nothing
  | .manyTimeouts durations, _ => by
    rw [Step.run]
    refine (rules.keeps_startMany durations).bind fun started => ?_
    cases started <;> exact tells_pure _
  | .clearTimeout timer, _ => by
    rw [Step.run]
    refine (rules.keeps_timerId? timer).bind fun found => ?_
    cases found with
    | some id =>
      refine rules.memory (fun _ _ _ => rfl) fun state => ?_
      exact tells (rules.keeps_perform (.clearTimeout state.scheduler id) nofun) .flag
    | none => exact tells_pure (.flag false)
  | .timerState timer, _ => by
    rw [Step.run]
    refine (rules.keeps_timerId? timer).bind fun found => ?_
    cases found with
    | some id =>
      refine tells_timerTable fun table other same => ?_
      rw [TimerTable.state?_uncounted same id]
      cases other.state? id <;> exact tells_pure _
    | none => exact tells_pure .nothing
  | .pendingTimers, _ => by
    refine tells_timerTable fun table other same => ?_
    rw [TimerTable.pending_uncounted same]
    exact tells_pure _
  | .stats, _ => tells_timerTable fun _ _ => tells_stats
  | .newScheduler, _ => tells rules.newScheduler fun _ => .nothing
  | .deferred label, _ =>
    (rules.keeps_perform .newDeferred nofun).bind fun cell => (rules.keeps_bindResolver label cell).bind fun _ =>
      tells (rules.keeps_bindHandle label cell) fun _ => .nothing
  | .resolved label value, _ =>
    (rules.keeps_eval arguments value).bind fun value =>
      (rules.keeps_perform (.newResolved value) nofun).bind fun cell =>
        tells (rules.keeps_bindHandle label cell) fun _ => .nothing
  | .cloneHandle source label, _ =>
    tells_withHandle fun cell => (rules.keeps_perform (.cloneHandle cell) nofun).bind fun _ =>
      tells (rules.keeps_bindHandle label cell) fun _ => .nothing
  | .delay label duration value counted, _ =>
    (rules.keeps_eval arguments value).bind fun value => (rules.keeps_counter counted).bind fun counter =>
      (rules.keeps_perform (.delay counter duration value) nofun).bind fun _ => rules.tells_bindStarted label _
  | .resolve label value, _ => by
    rw [Step.run]
    refine (rules.keeps_eval arguments value).bind fun value => (rules.keeps_takeResolver label).bind fun taken => ?_
    cases taken with
    | some cell => exact tells (rules.keeps_perform (.resolve cell value) nofun) fun _ => .flag true
    | none => exact tells_pure (.flag false)
  | .dropResolver label, _ => by
    rw [Step.run]
    refine (rules.keeps_takeResolver label).bind fun taken => ?_
    cases taken with
    | some cell => exact tells (rules.keeps_perform (.dropResolver cell) nofun) fun _ => .flag true
    | none => exact tells_pure (.flag false)
  | .dropHandle label, _ => by
    rw [Step.run]
    refine rules.memory (fun _ _ _ => rfl) fun state => ?_
    cases state.handles.find? label with
    | some cell =>
      refine (rules.keeps_update (by exact fun _ _ _ => ⟨rfl, rfl, rfl⟩)).bind fun _ => ?_
      exact tells (rules.keeps_perform (.dropHandle cell) nofun) fun _ => .flag true
    | none => exact tells_pure (.flag false)
  | .isObserved label, _ => by
    rw [Step.run]
    refine rules.memory (fun _ _ _ => rfl) fun state => rules.look (fun _ _ => rfl) fun world => ?_
    cases (state.resolvers.find? label).bind world.cell? <;> exact tells_pure _
  | .peek label, _ => tells_withHandle fun _ => rules.look (fun _ _ => rfl) fun _ => tells_pure _
  | .handles, _ => rules.memory (fun _ _ _ => rfl) fun _ => rules.look (fun _ _ => rfl) fun _ => tells_pure _
  | .context imports ownOutput, _ => by
    rw [Step.run]
    refine (rules.keeps_evalImports arguments imports).bind fun imports => ?_
    cases ownOutput with
    | true =>
      exact rules.keeps_newSlot.bind fun _ => tells_update (by exact fun _ _ _ => ⟨rfl, rfl, rfl⟩) .nothing
    | false => exact tells_update (by exact fun _ _ _ => ⟨rfl, rfl, rfl⟩) .nothing
  | .contextCall name given, _ =>
    tells_withContext fun context => (rules.keeps_evalAll arguments given).bind fun _ =>
      tells (rules.keeps_call context.globals name _) asResult
  | .contextLog given, _ =>
    tells_withContext fun _ => (rules.keeps_evalAll arguments given).bind fun _ =>
      tells (rules.keeps_log _) fun _ => .nothing
  | .contextImport _, _ => tells_withContext fun _ => tells_pure _
  | .contextOutput, _ => tells_withContext fun _ => tells (rules.keeps_output _) _
  | .contextStats, _ =>
    tells_withContext fun context => rules.looking fun _ _ same =>
      tells_stats (World.scheduler_uncounted same context.scheduler)
  | .hello duration label, _ => by
    rw [Step.run]
    refine tells_withContext fun context => (rules.keeps_hello context duration).bind fun started => ?_
    match started with
    | .ok started =>
      exact tells_update (by exact fun _ _ _ => ⟨rfl, rfl, rfl⟩) (.subscription started.subscription)
    | .error (.host error) => exact tells_pure (.called (.error error))
    | .error .detached => exact tells_pure .detached
  | .outcome label, _ => by
    rw [Step.run]
    refine rules.memory (fun _ _ _ => rfl) fun state => ?_
    cases state.started.find? label with
    | some started => exact rules.look (fun _ _ => rfl) fun _ => tells_pure _
    | none => exact tells_pure .nothing
  | .debug subject, _ => rules.tells_debugSubject subject

variable (rules)

theorem alike_all (results : List Result) : List.Forall₂ Result.Alike results results :=
  List.forall₂_same.mpr fun result _ => .same result

theorem relates_callback (label : String) {steps other : List Value → Act State (List Result)} (result : Expr)
    (alike : ∀ arguments, rules.Relates (List.Forall₂ Result.Alike) (steps arguments) (other arguments))
    (arguments : List Value) :
    rules.Relates Eq (callback label steps result arguments) (callback label other result arguments) := by
  refine rules.look (fun _ _ => rfl) fun world => ?_
  refine rules.reading fun a b alike' => ?_
  dsimp only
  rw [alike'.size_events]
  have entered : rules.Keeps (Act.modifyMemory fun state =>
      { state with events := state.events.push { label, arguments, time := world.now } }) :=
    rules.update (fun _ _ same => same.enter _) fun _ => ⟨rfl, rfl⟩
  refine entered.bind fun _ => ?_
  refine rules.bind (alike arguments) alike_all fun results others told => ?_
  have answered : rules.Relates Eq (Act.modifyMemory fun state =>
      { state with events := state.events.modify b.events.size fun event => { event with results } })
        (Act.modifyMemory fun state =>
          { state with events := state.events.modify b.events.size fun event => { event with results := others } }) :=
    rules.update (fun _ _ same => same.answer _ told) fun _ => ⟨rfl, rfl⟩
  exact bindSame answered fun _ => rules.keeps_eval arguments result

mutual

/-- Steps that are the same but for who counts tell the same but for counts. -/
theorem tells_step (arguments : List Value) : {step other : Step} → step.Recounted other →
    rules.Tells (step.run arguments) (other.run arguments)
  | _, _, .flat step flat => tells_flat arguments step flat
  | _, _, .registerSteps name arity bodies result => by
    rw [Step.run, Step.run]
    have called := rules.relates_callback name result fun given => tells_steps given bodies
    exact bindSame (rules.define .ok called) fun _ => rules.tells_registerFunction _
  | _, _, .define label name bodies result => by
    rw [Step.run, Step.run]
    have called := rules.relates_callback label result fun given => tells_steps given bodies
    exact bindSame (rules.define .ok called) fun _ =>
      tells_update (by exact fun _ _ _ => ⟨rfl, rfl, rfl⟩) .nothing
  | _, _, .setTimeout label duration bodies => by
    rw [Step.run, Step.run]
    have called := rules.relates_callback label (.value .undefined) (fun given => tells_steps given bodies) []
    refine rules.memory (fun _ _ _ => rfl) fun state => ?_
    refine bindSame (rules.setTimeout _ _ (bindSame called fun _ => rules.pure rfl)) fun started => ?_
    cases started with
    | none => exact tells_pure .detached
    | some id => exact tells_update (by exact fun _ _ _ => ⟨rfl, rfl, rfl⟩) (.count id.number)
  | _, _, .attach source label bodies result counted recounted => by
    rw [Step.run, Step.run]
    have called := rules.relates_callback label result fun given => tells_steps given bodies
    refine tells_withHandle fun cell => ?_
    have attached := rules.attachCounted counted recounted cell fun value => called [value]
    have started := bindSame attached fun handle => rules.tells_bindStarted label handle
    exact started

theorem tells_steps (arguments : List Value) :
    {steps others : List Step} → List.Forall₂ Step.Recounted steps others →
      rules.Relates (List.Forall₂ Result.Alike) (Step.runAll arguments steps) (Step.runAll arguments others)
  | _, _, .nil => rules.pure .nil
  | _, _, .cons step rest => by
    rw [Step.runAll, Step.runAll]
    refine rules.bind (tells_step arguments step) .same fun result other alike => ?_
    refine rules.bind (tells_steps arguments rest) alike_all fun results others told => ?_
    exact rules.pure (.cons alike told)

end

theorem relates_record {result other : Result} (results : result.Alike other) :
    rules.Relates Eq (record result) (record other) :=
  rules.looking fun _ _ same => rules.update (fun _ _ alike => alike.record same results) fun _ => ⟨rfl, rfl⟩

theorem keeps_prepare (setup : Setup) : rules.Keeps setup.prepare := by
  have filled : rules.Keeps (do
      Host.setOutput mainOutput (← setup.output.eval [])
      record .nothing) := by
    refine (rules.keeps_eval [] setup.output).bind fun value => ?_
    exact (rules.keeps_setOutput _ _).bind fun _ => rules.relates_record (.same .nothing)
  unfold Setup.prepare
  split
  next => exact filled
  next =>
    exact (rules.keeps_noteAll _).bind fun _ =>
      (rules.keeps_update (by exact fun _ _ _ => ⟨rfl, rfl, rfl⟩)).bind fun _ => filled

/-- A step is done and what it tells is recorded. -/
theorem tells_recorded {step other : Step} (steps : step.Recounted other) :
    rules.Tells (do let result ← Step.run [] step; record result; return result)
      (do let result ← Step.run [] other; record result; return result) := by
  refine rules.bind (rules.tells_step [] steps) .same fun result other alike => ?_
  exact bindSame (rules.relates_record alike) fun _ => rules.pure alike

end Congruence
end RuleHost.Scenario
