import RuleHost.HelloRun
import RuleHost.Proofs.ProgramRuns
import RuleHost.Proofs.GlobalCalls

/-! The part of the hello script that runs at once, step by step, in a loop of its own: the answers it gets
from the services, the lines it logs, and the loop that it leaves behind with one timer and one continuation
in the queue. -/

namespace RuleHost

open Loop Loop.Machine

namespace Sink

def keeps : Sink → String → List String
  | .kept, line => [line]
  | .logged, _ => []

def tells : Sink → String → List Notice
  | .kept, _ => []
  | .logged, line => [.consoleLine line]

end Sink

namespace Hello

section Answers

variable {services : Services}

theorem answer_page (echo : services.urls = .echo) :
    Global.answer .getUrl [.int 17] (by decide) services =
      .ok ⟨.string "get_url 17", services, none⟩ := by
  simp only [Global.answer, echo, UrlFetcher.fetch]
  rfl

theorem answer_page_failing {message : String} (failing : services.urls = .failing message) :
    Global.answer .getUrl [.int 17] (by decide) services = .error (.collaborator "get_url" message) := by
  simp only [Global.answer, failing, UrlFetcher.fetch]
  rfl

theorem answer_greeting :
    Global.answer .hello [.string "friend"] (by decide) services =
      .ok ⟨(services.greeter.greet "friend").1,
        { services with greeter := (services.greeter.greet "friend").2 }, none⟩ := rfl

theorem answer_subscription (callback : FunctionRef) :
    Global.answer .notifyOnThingStatesChange [.string "thing_id", .function callback]
        (by decide : Global.arity .notifyOnThingStatesChange ≤ 2) services =
      .ok ⟨Notifier.receipt "thing_id",
        { services with notifier := (services.notifier.subscribe "thing_id" callback).2 },
        some (.listenerRegistered services.notifier.next "thing_id")⟩ := rfl

end Answers

def pageLine : String := Console.line [.string "get_url: ", .string "get_url 17"]

def greetingLine (greeter : Greeter) : String := Console.line [(greeter.greet "friend").1]

def subscriptionLine : String :=
  Console.line [.string "notifyOnThingStatesChange", Notifier.receipt "thing_id"]

def worldLine (constant : String) : String := Console.line [.string "Hello World", .string constant]

def lateLine : String := Console.line [.string "timeout"]

def onChange (_ : List Value) : Act Host Value := do
  Host.log [.string "thing_id"]
  return .undefined

end Hello

namespace HelloRun

/-- The loop of a machine, with this host and this log. -/
def beside (m : Machine Host) (host : Host) (notices : List Notice) : Machine Host :=
  { m with memory := host, notices }

section Beside

variable (m : Machine Host) (notices : List Notice)

theorem within_beside_call {services after : Services} (console : Console) (slots : Array Value)
    (global : Global) (arguments : List Value) (enough : global.arity ≤ arguments.length) {value : Value}
    {notice : Option Notice} (answered : global.answer arguments enough services = .ok ⟨value, after, notice⟩) :
    (beside m ⟨services, console, slots⟩ notices).Within (Host.call Registry.globals global.name arguments) 5
      (.ok value) (beside m ⟨after, console, slots⟩
        (notice.toList.reverse ++ .hostCall global.name arguments.length :: notices)) :=
  (within_call_global (beside m ⟨services, console, slots⟩ notices) global enough).2 _ answered

theorem within_beside_log (services : Services) (sink : Sink) (kept : List String) (slots : Array Value)
    (arguments : List Value) :
    (beside m ⟨services, ⟨sink, kept⟩, slots⟩ notices).Within (Host.log arguments) 3 ()
      (beside m ⟨services, ⟨sink, sink.keeps (Console.line arguments) ++ kept⟩, slots⟩
        (sink.tells (Console.line arguments) ++ notices)) := by
  refine (within_get _).bind ?_ (by decide)
  cases sink with
  | kept => exact within_modify _ _
  | logged => exact (within_note _ _).mono (show 1 ≤ 3 - 1 by decide)

variable (host : Host)

theorem within_beside_define (body : List Value → Act Host Value) :
    (beside m host notices).Within (Act.define body) 1 m.functions.size
      (beside { m with functions := m.functions.push fun arguments => (body arguments).program } host notices) :=
  within_define _ body

theorem within_beside_note (notice : Notice) :
    (beside m host notices).Within (Act.note notice) 1 () (beside m host (notice :: notices)) :=
  within_note _ notice

theorem within_beside_setOutput (slot : SlotId) (value : Value) :
    (beside m host notices).Within (Host.setOutput slot value) 2 () (beside m (host.setSlot slot value) notices) :=
  within_modify _ _

theorem within_beside_output (slot : SlotId) :
    (beside m host notices).Within (Host.output slot) 1 (host.slot slot) (beside m host notices) :=
  (within_get _).bind (.pure _ _ _) (Nat.le_refl 1)

end Beside

def context (config : Config) : Context :=
  ⟨0, Registry.globals, Context.importsOf [(Hello.importName, .string config.constant)], 0⟩

def empty : Machine Host := { memory := {}, script := .busy }

def defining : Machine Host :=
  { empty with functions := #[fun arguments => (Hello.onChange arguments).program] }

def sleeping (delay : Nat) : Machine Host :=
  { defining with
    schedulers := #[(({} : TimerTable).schedule 0).2]
    cells := #[⟨.pending .task, 1⟩]
    tasks := #[⟨.timer 0 ⟨1⟩ delay (.resolve 0 .undefined), .fresh, 0⟩]
    ready := [0] }

def running (delay : Nat) : Machine Host :=
  { sleeping delay with
    cells := #[⟨.pending .task, 2⟩, ⟨.pending .task, 1⟩]
    tasks := #[⟨.timer 0 ⟨1⟩ delay (.resolve 0 .undefined), .fresh, 0⟩,
      ⟨.continuation (some 0) 0 1 fun _ => (Hello.writeLate 0).program, .fresh, 0⟩]
    ready := [0, 1] }

theorem within_delay (host : Host) (notices : List Notice) (delay : Nat) :
    (beside defining host notices).Within (Act.perform (.delay (some 0) delay .undefined)).orDetached.run 1
      (.ok 0) (beside (sleeping delay) host (.timerScheduled ⟨1⟩ delay :: notices)) := by
  apply Within.orDetached
  exact within_perform (beside defining host notices) (.delay (some 0) delay .undefined)

theorem within_continue (host : Host) (notices : List Notice) (delay : Nat) :
    (beside (sleeping delay) host notices).Within (Act.attach (some 0) 0 fun _ => Hello.writeLate 0).orDetached.run 1
      (.ok 1) (beside (running delay) host notices) := by
  apply Within.orDetached
  exact within_attach (beside (sleeping delay) host notices) (some 0) 0 _

section Body

variable (config : Config) (services : Services) (sink : Sink)

/-- The services after the script was there. -/
def visited : Services :=
  { services with
    greeter := (services.greeter.greet "friend").2
    notifier := (services.notifier.subscribe "thing_id" ⟨0, "on_thing_change"⟩).2 }

/-- The lines that the console has kept when the script ends, newest first. -/
def heard : List String :=
  [Hello.worldLine config.constant, Hello.subscriptionLine, Hello.greetingLine services.greeter,
    Hello.pageLine].flatMap sink.keeps

def opened : List Notice := [.runStarted config.delay.toNat, .functionsInstalled 13]

def called : List Notice :=
  sink.tells Hello.subscriptionLine ++
    (.listenerRegistered services.notifier.next "thing_id" :: .hostCall "notifyOnThingStatesChange" 2 ::
      (sink.tells (Hello.greetingLine services.greeter) ++ .hostCall "hello" 1 ::
        (sink.tells Hello.pageLine ++ .hostCall "get_url" 1 :: opened config)))

def started : List Notice :=
  sink.tells (Hello.worldLine config.constant) ++ .writeScheduled config.delay.toNat ::
    .timerScheduled ⟨1⟩ config.delay.toNat :: called config services sink

def prepared : Machine Host :=
  beside empty ⟨services, ⟨sink, []⟩, #[config.initialValue]⟩ (opened config)

def begun : Machine Host :=
  beside (running config.delay.toNat)
    ⟨visited services, ⟨sink, heard config services sink⟩, #[.string "abc"]⟩ (started config services sink)

theorem within_prepare :
    (beside empty ⟨services, ⟨sink, []⟩, #[.null]⟩ []).Within
      (prepare config) 4 (context config) (prepared config services sink) := by
  have installed : ({} : Registry).install = ([.functionsInstalled 13], Registry.globals) :=
    Prod.ext (by decide) rfl
  unfold prepare
  rw [installed]
  refine (within_noteAll _ [.functionsInstalled 13]).bind ?_ (by decide)
  refine (within_modify _ _).bind ?_ (by decide)
  exact (within_note _ _).bind (.pure _ _ _) (by decide)

variable {config services sink}

theorem within_run (echo : services.urls = .echo) :
    (prepared config services sink).Within (Hello.run (context config) config.delay.toNat).run 60
      (.ok ⟨1, Notifier.receipt "thing_id"⟩) (begun config services sink) := by
  have page := within_beside_call empty (opened config) ⟨sink, []⟩ #[config.initialValue] .getUrl
    [.int 17] (by decide) (Hello.answer_page echo)
  unfold Hello.run
  refine page.bindExcept ?_ (by decide)
  refine (within_beside_log _ _ _ _ _ _ _).lift.bindExcept ?_ (by decide)
  refine (within_beside_call _ _ _ _ .hello [.string "friend"] (by decide)
    Hello.answer_greeting).bindExcept ?_ (by decide)
  refine (within_beside_log _ _ _ _ _ _ _).lift.bindExcept ?_ (by decide)
  refine (within_beside_define _ _ _ Hello.onChange).lift.bindExcept ?_ (by decide)
  refine (within_beside_call _ _ _ _ .notifyOnThingStatesChange
    [.string "thing_id", .function ⟨0, "on_thing_change"⟩] (by decide)
    (Hello.answer_subscription _)).bindExcept ?_ (by decide)
  refine (within_beside_log _ _ _ _ _ _ _).lift.bindExcept ?_ (by decide)
  refine (within_delay _ _ _).bindExcept ?_ (by decide)
  refine (within_continue _ _ _).bindExcept ?_ (by decide)
  refine (within_beside_note _ _ _ _).lift.bindExcept ?_ (by decide)
  refine (within_beside_setOutput _ _ _ _ _).lift.bindExcept ?_ (by decide)
  refine (within_beside_log _ _ _ _ _ _ _).lift.bindExcept ?_ (by decide)
  exact .pure _ _ _

theorem within_run_failing {message : String} (failing : services.urls = .failing message) :
    (prepared config services sink).Within (Hello.run (context config) config.delay.toNat).run 60
      (.error (.host (.collaborator "get_url" message)))
      ((prepared config services sink).note (.hostCall "get_url" 1)) := by
  have page := (within_call_global (prepared config services sink) .getUrl
    (show Global.arity .getUrl ≤ [Value.int 17].length by decide)).1 _ (Hello.answer_page_failing failing)
  unfold Hello.run
  exact (Within.failExcept page).mono (by decide)

end Body

end HelloRun
end RuleHost
