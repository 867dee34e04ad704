import RuleHost.Proofs.HelloRuns
import RuleHost.Proofs.HostConfinement

/-! The part of the hello script that runs at once, in any loop and with any host functions. It asks three of
them, and what the first failing one says is all that the script comes to. If none fails it leaves one timer
and one continuation in the loop. -/

namespace RuleHost

open Loop Loop.Machine

/-- The lines that a console has received so far, oldest first: it has kept them, or the log has them. -/
def Console.received (console : Console) (notices : List Notice) : List String :=
  match console.sink with
  | .kept => console.lines
  | .logged => notices.reverse.filterMap Notice.consoleLine?

theorem Console.received_note (console : Console) {notice : Notice} (silent : notice.consoleLine? = none)
    (notices : List Notice) : console.received (notice :: notices) = console.received notices := by
  have same : (notice :: notices).reverse.filterMap Notice.consoleLine? =
      notices.reverse.filterMap Notice.consoleLine? := by
    rw [List.reverse_cons, List.filterMap_append, List.filterMap_cons, silent, List.filterMap_nil, List.append_nil]
  rw [received, received, same]

/-- No global writes to the console. -/
theorem Global.answer_silent {global : Global} {arguments : List Value}
    {enough : global.arity ≤ arguments.length} {services : Services} {reply : Reply}
    (answered : global.answer arguments enough services = .ok reply) :
    ∀ notice ∈ reply.notice, notice.consoleLine? = none := by
  cases global with
  | notifyOnThingStatesChange =>
    obtain ⟨_, _, rest⟩ := bind_eq_ok answered
    obtain ⟨_, _, rest⟩ := bind_eq_ok rest
    cases rest
    rintro _ ⟨⟩
    rfl
  | hello =>
    simp only [answer] at answered
    split at answered <;> cases answered <;> exact fun _ member => by cases member
  | ruleType => cases answered; exact fun _ member => by cases member
  | getUrl | unregisterThingStateListener | getGlobalVar | getNamedInputValue | setGlobalVar | setNamedOutputValue =>
    obtain ⟨_, _, rest⟩ := bind_eq_ok answered
    cases rest
    exact fun _ member => by cases member
  | getAllThingStates =>
    obtain ⟨_, _, rest⟩ := bind_eq_ok answered
    obtain ⟨_, _, rest⟩ := bind_eq_ok rest
    cases rest
    exact fun _ member => by cases member
  | execThingAction | cmdThingState =>
    obtain ⟨_, _, rest⟩ := bind_eq_ok answered
    obtain ⟨_, _, rest⟩ := bind_eq_ok rest
    obtain ⟨_, _, rest⟩ := bind_eq_ok rest
    cases rest
    exact fun _ member => by cases member
  | getThingState =>
    obtain ⟨_, _, rest⟩ := bind_eq_ok answered
    obtain ⟨_, _, rest⟩ := bind_eq_ok rest
    obtain ⟨_, _, rest⟩ := bind_eq_ok rest
    obtain ⟨_, _, rest⟩ := bind_eq_ok rest
    cases rest
    exact fun _ member => by cases member

/-- A job is a timer of a scheduler, or a continuation that it counts. -/
def Loop.Job.serves {σ : Type} (scheduler : SchedulerId) : Job σ → Bool
  | .timer other _ _ _ => other == scheduler
  | .delay _ _ _ => false
  | .continuation counter _ _ _ => counter == some scheduler

namespace Loop.Machine

variable {σ : Type}

def jobsOf (m : Machine σ) (scheduler : SchedulerId) : List (Job σ) :=
  (m.tasks.toList.map Task.job).filter (Job.serves scheduler)

def defined (m : Machine σ) (body : List Value → Act σ Value) : Machine σ :=
  { m with functions := m.functions.push fun arguments => (body arguments).program }

theorem startDelay_hosted {m : Machine σ} {scheduler : SchedulerId}
    (hosted : m.hosts (some scheduler) = true) (duration : Nat) (value : Value) :
    m.startDelay (some scheduler) duration value = (some m.cells.size,
      ((m.newCell (.pending .task)).2.enroll scheduler duration (.resolve m.cells.size value)).note
        (.timerScheduled (m.toWorld.scheduler scheduler).ids.issue.1 duration)) := by
  simp only [startDelay, hosted, ite_true]
  rw [startTimer_hosted _ scheduler duration _ (by exact hosted)]
  rfl

theorem startContinuation_hosted {m : Machine σ} {counter : Option SchedulerId}
    (hosted : m.hosts counter = true) {source : CellId} (inside : source < m.cells.size)
    (body : Value → Program σ) :
    m.startContinuation counter source body = (some m.cells.size,
      ((m.retain source).newCell (.pending .task)).2.spawn (.continuation counter source m.cells.size body)) := by
  have size : (m.retain source).cells.size = m.cells.size := by simp [retain]
  simp only [startContinuation, hosted, inside, decide_true, Bool.and_self, ite_true, newCell, size]

section Lines

variable [HostMemory σ]

def host (m : Machine σ) : Host := HostMemory.host m.memory

def received (m : Machine σ) : List String := m.host.console.received m.notices

def heard (m : Machine σ) (line : String) : Machine σ :=
  let console := { m.host.console with kept := m.host.console.sink.keeps line ++ m.host.console.kept }
  { m with
    memory := HostMemory.setHost { m.host with console } m.memory
    notices := m.host.console.sink.tells line ++ m.notices }

theorem host_heard (m : Machine σ) (line : String) :
    (m.heard line).host = { m.host with
      console := { m.host.console with kept := m.host.console.sink.keeps line ++ m.host.console.kept } } :=
  HostMemory.host_setHost _ _

theorem slot_heard (m : Machine σ) (line : String) (slot : SlotId) :
    (m.heard line).host.slot slot = m.host.slot slot := by
  rw [host_heard]
  rfl

theorem received_heard (m : Machine σ) (line : String) : (m.heard line).received = m.received ++ [line] := by
  have notices : (m.heard line).notices = m.host.console.sink.tells line ++ m.notices := rfl
  rw [received, received, host_heard, notices, Console.received, Console.received]
  cases m.host.console.sink with
  | kept => exact List.reverse_cons
  | logged =>
    show (Notice.consoleLine line :: m.notices).reverse.filterMap Notice.consoleLine? = _
    rw [List.reverse_cons, List.filterMap_append]
    rfl

theorem heard_of_kept {m : Machine σ} (sink : m.host.console.sink = .kept) (line : String) :
    m.heard line = { m with memory := HostMemory.setHost { m.host with
      console := { m.host.console with kept := line :: m.host.console.kept } } m.memory } := by
  rw [heard, sink, Sink.keeps, Sink.tells]
  rfl

theorem heard_of_logged {m : Machine σ} (sink : m.host.console.sink = .logged) (line : String) :
    m.heard line = m.note (.consoleLine line) := by
  rw [heard, sink, Sink.keeps, Sink.tells]
  exact congrArg (fun memory => { m.note (.consoleLine line) with memory }) (HostMemory.setHost_host m.memory)

theorem within_log (m : Machine σ) (arguments : List Value) :
    m.Within (Host.log arguments) 3 () (m.heard (Console.line arguments)) := by
  refine (within_get m).bind ?_ (by decide)
  rw [← host]
  cases sink : m.host.console.sink with
  | kept =>
    rw [heard_of_kept sink]
    exact within_modify m _
  | logged =>
    rw [heard_of_logged sink]
    exact (within_note m _).mono (show 1 ≤ 3 - 1 by decide)

def put (m : Machine σ) (slot : SlotId) (value : Value) : Machine σ :=
  { m with memory := HostMemory.setHost (m.host.setSlot slot value) m.memory }

theorem received_note (m : Machine σ) {notice : Notice} (silent : notice.consoleLine? = none) :
    (m.note notice).received = m.received :=
  m.host.console.received_note silent m.notices

theorem host_put (m : Machine σ) (slot : SlotId) (value : Value) :
    (m.put slot value).host = m.host.setSlot slot value :=
  HostMemory.host_setHost _ _

theorem sink_put (m : Machine σ) (slot : SlotId) (value : Value) :
    (m.put slot value).host.console.sink = m.host.console.sink := by
  rw [host_put]
  rfl

theorem slot_put {m : Machine σ} {slot : SlotId} (inside : slot < m.host.slots.size) (value : Value) :
    (m.put slot value).host.slot slot = value := by
  rw [host_put]
  simp [Host.slot, Host.setSlot, inside]

theorem received_put (m : Machine σ) (slot : SlotId) (value : Value) :
    (m.put slot value).received = m.received := by
  rw [received, received, host_put]
  rfl

end Lines

end Loop.Machine

namespace Hello

variable {σ : Type} [HostMemory σ] {context : Context} {m n : Machine σ}

/-- Between two machines the scheduler and the output slot of a script are left alone, and the console
receives these lines. -/
structure Spares (context : Context) (m n : Machine σ) (lines : List String) : Prop where
  attached : n.attached = m.attached
  schedulers : m.schedulers.size ≤ n.schedulers.size
  table : n.toWorld.scheduler context.scheduler = m.toWorld.scheduler context.scheduler
  jobs : n.jobsOf context.scheduler = m.jobsOf context.scheduler
  slots : m.host.slots.size ≤ n.host.slots.size
  slot : n.host.slot context.output = m.host.slot context.output
  received : n.received = m.received ++ lines

namespace Spares

theorem refl (m : Machine σ) : Spares context m m [] :=
  ⟨rfl, Nat.le_refl _, rfl, rfl, Nat.le_refl _, rfl, (List.append_nil _).symm⟩

theorem trans {last : Machine σ} {lines more : List String} (before : Spares context m n lines)
    (after : Spares context n last more) : Spares context m last (lines ++ more) where
  attached := after.attached.trans before.attached
  schedulers := Nat.le_trans before.schedulers after.schedulers
  table := after.table.trans before.table
  jobs := after.jobs.trans before.jobs
  slots := Nat.le_trans before.slots after.slots
  slot := after.slot.trans before.slot
  received := by rw [after.received, before.received, List.append_assoc]

theorem heard (m : Machine σ) (line : String) : Spares context m (m.heard line) [line] := by
  refine ⟨rfl, Nat.le_refl _, rfl, rfl, ?_, ?_, received_heard m line⟩
  · exact Nat.le_of_eq (congrArg (fun host : Host => host.slots.size) (host_heard m line)).symm
  · exact slot_heard m line context.output

theorem defined (m : Machine σ) (body : List Value → Act σ Value) : Spares context m (m.defined body) [] :=
  ⟨rfl, Nat.le_refl _, rfl, rfl, Nat.le_refl _, rfl, (List.append_nil _).symm⟩

theorem note (m : Machine σ) {notice : Notice} (silent : notice.consoleLine? = none) :
    Spares context m (m.note notice) [] :=
  ⟨rfl, Nat.le_refl _, rfl, rfl, Nat.le_refl _, rfl,
    (received_note m silent).trans (List.append_nil _).symm⟩

theorem replied (m : Machine σ) {reply : Global.Reply}
    (silent : ∀ notice ∈ reply.notice, notice.consoleLine? = none) : Spares context m (m.replied reply) [] := by
  have host : (m.replied reply).host = { m.host with services := reply.services } :=
    HostMemory.host_setHost _ _
  refine ⟨rfl, Nat.le_refl _, rfl, rfl, ?_, ?_, ?_⟩
  · exact Nat.le_of_eq (congrArg (fun host : Host => host.slots.size) host).symm
  · rw [host]
    rfl
  · rw [List.append_nil, Machine.received, host]
    cases notice : reply.notice with
    | none =>
      have notices : (m.replied reply).notices = m.notices := by simp [Machine.replied, told, notice]
      rw [notices]
      rfl
    | some told =>
      have notices : (m.replied reply).notices = told :: m.notices := by simp [Machine.replied, Machine.told, notice]
      rw [notices]
      exact m.host.console.received_note (silent told notice) m.notices

theorem hosts {lines : List String} (spares : Spares context m n lines)
    (hosted : m.hosts (some context.scheduler) = true) : n.hosts (some context.scheduler) = true := by
  rw [hosts_some_iff] at hosted ⊢
  exact ⟨spares.attached.trans hosted.1, Nat.lt_of_lt_of_le hosted.2 spares.schedulers⟩

end Spares

/-- A host function comes back with an outcome, has given the console these lines and has left the scheduler
and the output slot of the script alone. -/
structure Answers (context : Context) (m : Machine σ) (name : String) (arguments : List Value) (outcome : Outcome)
    (lines : List String) (n : Machine σ) : Prop where
  yields : m.Yields (Host.call context.globals name arguments) outcome n
  spares : Spares context m n lines

section Answers

variable {name : String} {arguments : List Value} {function : HostFunction}

theorem answers_missing (absent : context.globals.find? name = none) (m : Machine σ) :
    Answers context m name arguments (.error (.host (.undefinedFunction name))) [] m := by
  refine ⟨?_, .refl m⟩
  unfold Host.call
  rw [absent]
  exact (Within.pure m 0 _).yields

theorem yields_call (found : context.globals.find? name = some function) {m n : Machine σ} {bound : Nat}
    {outcome : Outcome} (within : (m.note (.hostCall name arguments.length)).Within
      (Host.callFunction function arguments) bound outcome n) :
    m.Yields (Host.call context.globals name arguments) outcome n := by
  have whole : m.Within (do
      Act.note (.hostCall name arguments.length)
      Host.callFunction function arguments) (bound + 1) outcome n :=
    (within_note m _).bind within (Nat.le_add_left 1 bound)
  unfold Host.call
  rw [found]
  exact whole.yields

theorem answers_short (found : context.globals.find? name = some function)
    (short : arguments.length < function.arity) (m : Machine σ) :
    Answers context m name arguments (.error (.host (.arity function.name function.arity arguments.length))) []
      (m.note (.hostCall name arguments.length)) := by
  have refused : Host.callFunction (σ := σ) function arguments =
      pure (.error (.host (.arity function.name function.arity arguments.length))) := by
    unfold Host.callFunction
    rw [dif_pos short]
  have within := Within.pure (m.note (.hostCall name arguments.length)) 0
    (.error (.host (.arity function.name function.arity arguments.length)) : Outcome)
  rw [← refused] at within
  exact ⟨yields_call found within, .note m rfl⟩

theorem answers_global (found : context.globals.find? name = some function) {global : Global}
    (body : function.body = .global global) (long : function.arity ≤ arguments.length)
    (enough : global.arity ≤ arguments.length) (m : Machine σ) :
    (∀ error, global.answer arguments enough m.services = .error error →
      Answers context m name arguments (.error (.host error)) [] (m.note (.hostCall name arguments.length))) ∧
    ∀ reply, global.answer arguments enough m.services = .ok reply →
      Answers context m name arguments (.ok reply.value) []
        ((m.note (.hostCall name arguments.length)).replied reply) := by
  have same : Host.callFunction (σ := σ) function arguments = Host.callGlobal global arguments enough := by
    unfold Host.callFunction
    rw [dif_neg (Nat.not_lt.mpr long)]
    cases function with
    | mk label arity installed demands => subst body; rfl
  have noted : Spares context m (m.note (.hostCall name arguments.length)) [] := .note m rfl
  have call := within_callGlobal (m.note (.hostCall name arguments.length)) global enough
  rw [← same] at call
  refine ⟨fun error refused => ⟨yields_call found (call.1 error refused), noted⟩, fun reply answered => ?_⟩
  exact ⟨yields_call found (call.2 reply answered), noted.trans (.replied _ (Global.answer_silent answered))⟩

theorem answers_back (context : Context) (m : Machine σ) (name : String) (arguments : List Value)
    (globals : ∀ function, context.globals.find? name = some function → ∃ global, function.body = .global global) :
    ∃ outcome n, Answers context m name arguments outcome [] n := by
  cases found : context.globals.find? name with
  | none => exact ⟨_, _, answers_missing found m⟩
  | some function =>
    by_cases short : arguments.length < function.arity
    · exact ⟨_, _, answers_short found short m⟩
    · obtain ⟨global, body⟩ := globals function found
      have long := Nat.le_of_not_lt short
      have enough := Nat.le_trans (function.enough global body) long
      have answers := answers_global found body long enough m
      cases answer : global.answer arguments enough m.services with
      | error error => exact ⟨_, _, answers.1 error answer⟩
      | ok reply => exact ⟨_, _, answers.2 reply answer⟩

end Answers

def notified (_ : List Value) : Act σ Value := do
  Host.log [.string "thing_id"]
  return .undefined

/-- The script asks for a global in a machine, and its console has received these lines until then. -/
inductive Asks (context : Context) (m : Machine σ) : Machine σ → List String → Global → List Value → Prop where
  | page : Asks context m m [] .getUrl [.int 17]
  | greeting {n : Machine σ} {own : List String} {page : Value}
      (answers : Answers context m "get_url" [.int 17] (.ok page) own n) :
      Asks context m (n.heard (Console.line [.string "get_url: ", page]))
        (own ++ [Console.line [.string "get_url: ", page]]) .hello [.string "friend"]
  | subscription {asked n : Machine σ} {lines own : List String} {arguments : List Value} {greeting : Value}
      (asks : Asks context m asked lines .hello arguments)
      (answers : Answers context asked "hello" arguments (.ok greeting) own n) :
      Asks context m ((n.heard (Console.line [greeting])).defined notified)
        (lines ++ (own ++ [Console.line [greeting]])) .notifyOnThingStatesChange
        [.string "thing_id", .function ⟨n.functions.size, "on_thing_change"⟩]

variable {asked : Machine σ} {lines own : List String} {global : Global} {arguments : List Value}

theorem Asks.spares (asks : Asks context m asked lines global arguments) : Spares context m asked lines := by
  induction asks with
  | page => exact .refl m
  | greeting answers => exact answers.spares.trans (.heard _ _)
  | @subscription _ n _ _ _ greeting _ answers ih =>
    have heard := answers.spares.trans (.heard n (Console.line [greeting]))
    have whole := (ih.trans heard).trans (.defined _ notified)
    rw [List.append_nil] at whole
    exact whole

/-- The first call that fails ends the script, right where the call ended. -/
theorem Asks.fails (asks : Asks context m asked lines global arguments) {failure : Failure}
    (answers : Answers context asked global.name arguments (.error failure) own n) (delay : Nat) :
    m.Yields (run context delay).run (.error failure) n := by
  unfold run
  cases asks with
  | page => exact Yields.failExcept answers.yields
  | greeting page =>
    apply Yields.bindExcept page.yields
    apply (within_log _ _).lift.yields.bindExcept
    exact Yields.failExcept answers.yields
  | subscription asks greeting =>
    cases asks with
    | greeting page =>
      apply Yields.bindExcept page.yields
      apply (within_log _ _).lift.yields.bindExcept
      apply Yields.bindExcept greeting.yields
      apply (within_log _ _).lift.yields.bindExcept
      apply (within_define _ notified).lift.yields.bindExcept
      exact Yields.failExcept answers.yields

def delayed (context : Context) (delay : Nat) (m : Machine σ) : Machine σ :=
  ((m.newCell (.pending .task)).2.enroll context.scheduler delay (.resolve m.cells.size .undefined)).note
    (.timerScheduled (m.toWorld.scheduler context.scheduler).ids.issue.1 delay)

def attached (context : Context) (delay : Nat) (m : Machine σ) : Machine σ :=
  (((delayed context delay m).retain m.cells.size).newCell (.pending .task)).2.spawn
    (.continuation (some context.scheduler) m.cells.size (m.cells.size + 1) fun _ =>
      (writeLate context.output).program)

def launched (context : Context) (delay : Nat) (m : Machine σ) : Machine σ :=
  (((attached context delay m).note (.writeScheduled delay)).put context.output (.string "abc")).heard
    (Console.line [.string "Hello World", context.imported importName])

omit [HostMemory σ] in
theorem within_delayed (hosted : m.hosts (some context.scheduler) = true) (delay : Nat) :
    m.Within (Act.perform (.delay (some context.scheduler) delay .undefined)).orDetached.run 1
      (.ok m.cells.size) (delayed context delay m) := by
  apply Within.orDetached
  have performed := within_perform m (.delay (some context.scheduler) delay .undefined)
  simp only [perform, startDelay_hosted hosted] at performed
  exact performed

theorem within_attached (hosted : m.hosts (some context.scheduler) = true) (delay : Nat) :
    (delayed context delay m).Within
      (Act.attach (some context.scheduler) m.cells.size fun _ => writeLate context.output).orDetached.run 1
      (.ok (m.cells.size + 1)) (attached context delay m) := by
  apply Within.orDetached
  have size : (delayed context delay m).cells.size = m.cells.size + 1 := Array.size_push _
  have still : (delayed context delay m).hosts (some context.scheduler) = true := by
    rw [hosts_some_iff] at hosted ⊢
    have same : (delayed context delay m).schedulers.size = m.schedulers.size := Array.size_setIfInBounds
    exact ⟨hosted.1, same ▸ hosted.2⟩
  have performed := within_attach (delayed context delay m) (some context.scheduler) m.cells.size fun _ =>
    writeLate context.output
  rw [startContinuation_hosted still (size ▸ Nat.lt_succ_self _), size] at performed
  exact performed

def timerJob (context : Context) (delay : Nat) (id : TimerId) (fired : CellId) : Job σ :=
  .timer context.scheduler id delay (.resolve fired .undefined)

def lateJob (context : Context) (fired timeout : CellId) : Job σ :=
  .continuation (some context.scheduler) fired timeout fun _ => (writeLate context.output).program

/-- What the script leaves in the loop when no call has failed: one timer, whose task comes first, and its
continuation. -/
structure Launched (context : Context) (delay : Nat) (m : Machine σ) (lines : List String) (task : TaskId)
    (fired timeout : CellId) (last : Machine σ) : Prop where
  table : last.toWorld.scheduler context.scheduler = ((m.toWorld.scheduler context.scheduler).schedule task).2
  jobs : last.jobsOf context.scheduler = m.jobsOf context.scheduler ++
    [timerJob context delay (m.toWorld.scheduler context.scheduler).ids.issue.1 fired,
      lateJob context fired timeout]
  timer : last.tasks[task]? =
    some ⟨timerJob context delay (m.toWorld.scheduler context.scheduler).ids.issue.1 fired, .fresh, last.now⟩
  continuation : last.tasks[task + 1]? = some ⟨lateJob context fired timeout, .fresh, last.now⟩
  slot : last.host.slot context.output = .string "abc"
  received : last.received = m.received ++ lines

theorem tasks_launched (context : Context) (delay : Nat) (m : Machine σ) :
    (launched context delay m).tasks =
      (m.tasks.push ⟨timerJob context delay (m.toWorld.scheduler context.scheduler).ids.issue.1 m.cells.size,
        .fresh, m.now⟩).push ⟨lateJob context m.cells.size (m.cells.size + 1), .fresh, m.now⟩ := rfl

theorem launched_launched (hosted : m.hosts (some context.scheduler) = true)
    (inside : context.output < m.host.slots.size) (delay : Nat) :
    Launched context delay m [Console.line [.string "Hello World", context.imported importName]]
      m.tasks.size m.cells.size (m.cells.size + 1) (launched context delay m) where
  table := by
    have tables : (launched context delay m).schedulers = (m.setScheduler context.scheduler
      ((m.toWorld.scheduler context.scheduler).schedule m.tasks.size).2).schedulers := rfl
    rw [scheduler_of_tables (hosts_some_iff.mp hosted).2 tables, if_pos rfl]
  jobs := by
    rw [jobsOf, tasks_launched]
    simp [jobsOf, timerJob, lateJob, Job.serves]
  timer := by
    rw [tasks_launched, Array.getElem?_push, if_neg (by simp), Array.getElem?_push, if_pos rfl]
    rfl
  continuation := by
    rw [tasks_launched, Array.getElem?_push, if_pos (by simp)]
    rfl
  slot := by
    rw [launched, slot_heard]
    exact slot_put (m := (attached context delay m).note (.writeScheduled delay)) inside _
  received := by
    rw [launched, received_heard, received_put, received_note _ rfl]
    congr 1
    exact received_note ((m.newCell (.pending .task)).2.enroll _ _ _) rfl

theorem Launched.after_spares {delay : Nat} {more : List String} {task : TaskId} {fired timeout : CellId}
    {last : Machine σ} (launched : Launched context delay n more task fired timeout last)
    (spares : Spares context m n lines) : Launched context delay m (lines ++ more) task fired timeout last := by
  constructor
  · rw [launched.table, spares.table]
  · rw [launched.jobs, spares.jobs, spares.table]
  · rw [launched.timer, spares.table]
  · exact launched.continuation
  · exact launched.slot
  · rw [launched.received, spares.received, List.append_assoc]

def lastLines (context : Context) (subscription : Value) : List String :=
  [Console.line [.string "notifyOnThingStatesChange", subscription],
    Console.line [.string "Hello World", context.imported importName]]

/-- Where no call fails the script comes to its end: it has started its timer, and has written. -/
theorem Asks.launches (asks : Asks context m asked lines .notifyOnThingStatesChange arguments)
    {subscription : Value}
    (answers : Answers context asked "notifyOnThingStatesChange" arguments (.ok subscription) own n)
    (hosted : m.hosts (some context.scheduler) = true) (inside : context.output < m.host.slots.size) (delay : Nat) :
    let last := launched context delay (n.heard (Console.line [.string "notifyOnThingStatesChange", subscription]))
    m.Yields (run context delay).run (.ok ⟨n.cells.size + 1, subscription⟩) last ∧
      Launched context delay m (lines ++ own ++ lastLines context subscription) n.tasks.size n.cells.size
        (n.cells.size + 1) last := by
  have heard := (asks.spares.trans answers.spares).trans
    (.heard n (Console.line [.string "notifyOnThingStatesChange", subscription]))
  have still := heard.hosts hosted
  constructor
  · unfold run
    cases asks with
    | subscription asks greeting =>
      cases asks with
      | greeting page =>
        apply Yields.bindExcept page.yields
        apply (within_log _ _).lift.yields.bindExcept
        apply Yields.bindExcept greeting.yields
        apply (within_log _ _).lift.yields.bindExcept
        apply (within_define _ notified).lift.yields.bindExcept
        apply Yields.bindExcept answers.yields
        apply (within_log _ _).lift.yields.bindExcept
        apply (within_delayed still delay).yields.bindExcept
        apply (within_attached still delay).yields.bindExcept
        apply (within_note _ _).lift.yields.bindExcept
        apply (within_modify _ _).lift.yields.bindExcept
        apply (within_log _ _).lift.yields.bindExcept
        exact (Within.pure _ 0 _).yields
  · have whole := (launched_launched still (Nat.lt_of_lt_of_le inside heard.slots) delay).after_spares heard
    rw [List.append_assoc] at whole
    exact whole

/-- Where all that is asked comes back, a first call fails or none does. -/
theorem asks_end (back : ∀ asked lines global arguments, Asks context m asked lines global arguments →
      ∃ outcome own n, Answers context asked global.name arguments outcome own n) :
    (∃ asked lines global arguments failure own n, Asks context m asked lines global arguments ∧
      Answers context asked global.name arguments (.error failure) own n) ∨
    ∃ asked lines arguments subscription own n,
      Asks context m asked lines .notifyOnThingStatesChange arguments ∧
        Answers context asked "notifyOnThingStatesChange" arguments (.ok subscription) own n := by
  obtain ⟨outcome, own, n, page⟩ := back _ _ _ _ .page
  cases outcome with
  | error failure => exact .inl ⟨_, _, _, _, failure, own, n, .page, page⟩
  | ok value =>
    have second := Asks.greeting page
    obtain ⟨outcome, own, n, greeting⟩ := back _ _ _ _ second
    cases outcome with
    | error failure => exact .inl ⟨_, _, _, _, failure, own, n, second, greeting⟩
    | ok value =>
      have third := Asks.subscription second greeting
      obtain ⟨outcome, own, n, subscription⟩ := back _ _ _ _ third
      cases outcome with
      | error failure => exact .inl ⟨_, _, _, _, failure, own, n, third, subscription⟩
      | ok value => exact .inr ⟨_, _, _, value, own, n, third, subscription⟩

/-- Where nothing but globals is registered, whatever their names and arities, the script comes back. -/
theorem run_comes_back (m : Machine σ) (hosted : m.hosts (some context.scheduler) = true)
    (inside : context.output < m.host.slots.size) (delay : Nat)
    (globals : ∀ name function, context.globals.find? name = some function →
      ∃ global, function.body = .global global) :
    ∃ result last, m.Yields (run context delay).run result last := by
  have back (asked : Machine σ) (lines : List String) (global : Global) (arguments : List Value)
      (_ : Asks context m asked lines global arguments) :
      ∃ outcome own n, Answers context asked global.name arguments outcome own n := by
    obtain ⟨outcome, n, answers⟩ := answers_back context asked global.name arguments (globals global.name)
    exact ⟨outcome, [], n, answers⟩
  obtain ⟨_, _, _, _, failure, _, n, asks, answers⟩ | ⟨_, _, _, _, _, _, asks, answers⟩ := asks_end back
  · exact ⟨.error failure, n, asks.fails answers delay⟩
  · exact ⟨_, _, (asks.launches answers hosted inside delay).1⟩

end Hello
end RuleHost
