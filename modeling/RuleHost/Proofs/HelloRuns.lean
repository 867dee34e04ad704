import RuleHost.Proofs.HelloSteps
import RuleHost.Proofs.LoopDrain
import RuleHost.Proofs.Publishing
import RuleHost.Proofs.RunAgreement

/-! Whole runs of the hello script, on services in whatever state earlier runs and calls have left them. A
run comes to the same report and the same lines each time, whatever is configured, and leaves one name and
one subscription more behind; where the first call fails it leaves nothing. -/

namespace RuleHost

open Loop Loop.Machine

/-- The notifiers that come about by subscribing and unsubscribing, with all numbers that were handed out
on the way. -/
inductive Notifier.Issued : List Nat → Notifier → Prop where
  | start : Issued [] {}
  | subscribe {ids : List Nat} {notifier : Notifier} (before : Issued ids notifier) (thing : String)
      (callback : FunctionRef) : Issued (ids ++ [notifier.next]) (notifier.subscribe thing callback).2
  | unsubscribe {ids : List Nat} {notifier : Notifier} (before : Issued ids notifier) (id : Nat) :
      Issued ids (notifier.unsubscribe id).2

def Notice.consoleLine? : Notice → Option String
  | .consoleLine line => some line
  | _ => none

/-- The lines of the script, for a host that greets with a word. -/
def Hello.lines (word constant : String) : List String :=
  ["get_url:  get_url 17",
    word ++ " friend",
    "notifyOnThingStatesChange notifyOnThingStatesChange thing_id false",
    "Hello World " ++ constant,
    "timeout"]

namespace HelloRun

/-- A console of a kind receives these lines in this order, and nobody receives any other. -/
structure Received (run : HelloRun) (sink : Sink) (lines : List String) : Prop where
  kept : run.lines = if sink = .kept then lines else []
  logged : run.notices.filterMap Notice.consoleLine? = if sink = .logged then lines else []

def finalReport : Report := ⟨.string "timeout", ⟨1, 1, 0, 1⟩⟩

/-- The run has succeeded on services whose notifier has handed out certain numbers. -/
structure Succeeded (config : Config) (sink : Sink) (services : Services) (ids : List Nat) (run : HelloRun) :
    Prop where
  report : run.result = .ok finalReport
  received : run.Received sink (Hello.lines services.greeter.word config.constant)
  word : run.services.greeter.word = services.greeter.word
  greeted : run.services.greeter.greeted = services.greeter.greeted ++ ["friend"]
  subscribed : ∃ id callback, id ∉ ids ∧ run.services.notifier.Issued (ids ++ [id]) ∧
    run.services.notifier.listeners.entries =
      services.notifier.listeners.entries ++ [(id, ⟨"thing_id", callback⟩)]
  urls : run.services.urls = services.urls
  things : run.services.things = services.things
  rule : run.services.rule = services.rule

/-- The run has failed because the collaborator has, and has changed nothing. -/
structure Refused (message : String) (services : Services) (run : HelloRun) : Prop where
  failed : ∃ failure, run.result = .error failure ∧
    failedBecause failure = "Hello script failed: get_url failed: " ++ message
  silent : run.lines = [] ∧ run.notices.filterMap Notice.consoleLine? = []
  unchanged : run.services = services

end HelloRun

namespace Notifier

variable {ids : List Nat} {notifier : Notifier}

theorem Issued.reachable (issued : notifier.Issued ids) : notifier.Reachable := by
  induction issued with
  | start => exact .start
  | subscribe _ thing callback ih => exact ih.subscribe thing callback
  | unsubscribe _ id ih => exact ih.unsubscribe id

/-- The next number is above all that were handed out, so it is none of them. -/
theorem Issued.lt_next (issued : notifier.Issued ids) : ∀ id ∈ ids, id < notifier.next := by
  induction issued with
  | start => exact nofun
  | subscribe _ _ _ ih =>
    intro id handed
    obtain old | new := List.mem_append.mp handed
    · exact Nat.lt_succ_of_lt (ih id old)
    · rw [List.mem_singleton.mp new]
      exact Nat.lt_succ_self _
  | unsubscribe _ _ ih => exact ih

theorem Issued.entries_subscribe (issued : notifier.Issued ids) (thing : String) (callback : FunctionRef) :
    (notifier.subscribe thing callback).2.listeners.entries =
      notifier.listeners.entries ++ [(notifier.next, ⟨thing, callback⟩)] := by
  apply Table.entries_insert_of_not_mem
  intro taken
  exact Nat.lt_irrefl _ (issued.reachable.ordered.fresh _ taken)

end Notifier

namespace Loop.Machine

variable {σ α : Type} {m n : Machine σ}

/-- A script that is one program comes to its end when the act that it is made of does. -/
theorem runScript_program {act : Act σ α} {outcome : α → Outcome} {bound fuel : Nat} {result : α}
    (idle : m.focus = .idle) (ready : m.script = .ready (.run (act.programWith outcome) .finish))
    (within : { m with script := .busy }.Within act bound result n) (busy : n.script = .busy)
    (enough : bound + 4 ≤ fuel) :
    runScript fuel m = some { n with focus := .idle, script := .ended (outcome result) } := by
  obtain ⟨count, few, steps⟩ := within
  have begun : after 1 m =
      some ({ m with script := .busy }.proceed (act.programWith outcome) (.script .finish)) := by
    simp only [after, step?, idle, ready, advance, Option.bind_some]
  have body := steps (fun value => .finish (outcome value)) (.script .finish)
  have reached := (after_add begun count).trans body
  obtain ⟨rest, rfl⟩ := Nat.exists_eq_add_of_le (show 1 + count + 3 ≤ fuel by omega)
  have running : (n.proceed (.finish (outcome result)) (.script .finish)).outcome? = none := by
    simp only [outcome?, proceed, busy]
  have concluded :
      runScript (rest + 2) { n with focus := .idle, script := .ready (.finish (outcome result)) } =
        some { n with focus := .idle, script := .ended (outcome result) } := rfl
  rw [Nat.add_assoc (1 + count), runScript_skip (outcome?_ready ready) reached running, Nat.add_comm 3 rest,
    runScript, running]
  exact concluded

theorem poll_due {id : TaskId} {scheduler : SchedulerId} {timer : TimerId} {duration deadline born : Nat}
    {effect : TimerEffect σ}
    (found : m.tasks[id]? = some ⟨.timer scheduler timer duration effect, .sleeping deadline, born⟩)
    (due : deadline ≤ m.now) : m.poll id = m.fire id scheduler timer effect := by
  simp only [poll, found, Task.deadline?, Option.getD_some]
  exact if_pos due

end Loop.Machine

namespace HelloRun

def stage (delay now : Nat) (timer continuation : Phase) (ready : List TaskId) : Machine Host :=
  { running delay with
    now := now
    tasks := #[⟨.timer 0 ⟨1⟩ delay (.resolve 0 .undefined), timer, 0⟩,
      ⟨.continuation (some 0) 0 1 fun _ => (Hello.writeLate 0).program, continuation, 0⟩]
    ready := ready
    script := .ended (.ok .undefined) }

def fired (delay : Nat) (phase : Phase) : Machine Host :=
  { stage delay delay .ended phase [1] with
    entries := [.timer 0 ⟨1⟩ delay]
    schedulers := #[⟨⟨2⟩, .empty, ⟨1, 1, 0, 0⟩⟩]
    cells := #[⟨.resolved .undefined delay, 2⟩, ⟨.pending .task, 1⟩] }

def entered (delay : Nat) : Machine Host :=
  { stage delay delay .ended .ended [] with
    entries := [.continuation 0 1 .undefined delay, .timer 0 ⟨1⟩ delay]
    schedulers := #[⟨⟨2⟩, .empty, ⟨1, 1, 0, 1⟩⟩]
    cells := #[⟨.resolved .undefined delay, 2⟩, ⟨.pending .task, 1⟩] }

def settled (delay : Nat) : Machine Host :=
  { entered delay with cells := #[⟨.resolved .undefined delay, 1⟩, ⟨.resolved .undefined delay, 1⟩] }

section Drain

variable (host : Host) (notices : List Notice) (delay : Nat)

/-- Without a delay the timer fires in its first turn, before the continuation has had one. -/
theorem after_now :
    after 1 (beside (stage 0 0 .fresh .fresh [0, 1]) host notices) =
      some (beside (fired 0 .fresh) host (.timerFired ⟨1⟩ :: notices)) := rfl

theorem after_sleeps :
    after 2 (beside (stage (delay + 1) 0 .fresh .fresh [0, 1]) host notices) =
      some (beside (stage (delay + 1) 0 (.sleeping (0 + (delay + 1))) .waiting []) host notices) := rfl

theorem after_elapses (deadline : Nat) :
    after 1 (beside (stage delay 0 (.sleeping deadline) .waiting []) host notices) =
      some (beside (stage delay deadline (.sleeping deadline) .waiting [0]) host notices) := by
  have due : tasksWhere (beside (stage delay 0 (.sleeping deadline) .waiting []) host notices)
      (fun task => task.deadline?.any (· ≤ deadline)) = [0] := by
    simp [tasksWhere, beside, stage, Task.deadline?, List.range_succ]
  have woken : elapse (beside (stage delay 0 (.sleeping deadline) .waiting []) host notices) deadline =
      beside (stage delay deadline (.sleeping deadline) .waiting [0]) host notices := by
    unfold elapse
    rw [due]
    rfl
  rw [← woken]
  rfl

theorem after_due :
    after 1 (beside (stage delay delay (.sleeping delay) .waiting [0]) host notices) =
      some (beside (fired delay .waiting) host (.timerFired ⟨1⟩ :: notices)) := by
  have found : (beside (stage delay delay (.sleeping delay) .waiting []) host notices).tasks[0]? =
      some ⟨.timer 0 ⟨1⟩ delay (.resolve 0 .undefined), .sleeping delay, 0⟩ := rfl
  exact congrArg some (poll_due found (Nat.le_refl delay))

/-- The timer fires at the end of the delay, however long it is. -/
theorem after_fires :
    ∃ count ≤ 4, ∃ phase, (phase = .fresh ∨ phase = .waiting) ∧
      after count (beside (stage delay 0 .fresh .fresh [0, 1]) host notices) =
        some (beside (fired delay phase) host (.timerFired ⟨1⟩ :: notices)) := by
  cases delay with
  | zero => exact ⟨1, by decide, .fresh, .inl rfl, after_now host notices⟩
  | succ delay =>
    have slept := after_sleeps host notices delay
    rw [Nat.zero_add] at slept
    have woken := (after_add slept 1).trans (after_elapses host notices (delay + 1) (delay + 1))
    exact ⟨4, Nat.le_refl 4, .waiting, .inr rfl,
      (after_add woken 1).trans (after_due host notices (delay + 1))⟩

theorem after_enters {phase : Phase} (queued : phase = .fresh ∨ phase = .waiting) :
    after 1 (beside (fired delay phase) host notices) =
      some ((beside (entered delay) host notices).proceed (Hello.writeLate 0).program
        (.continuation 0 1)) := by
  obtain rfl | rfl := queued <;> rfl

theorem after_concludes :
    after 1 ((beside (entered delay) host notices).proceed (.finish (.ok .undefined)) (.continuation 0 1)) =
      some (beside (settled delay) host notices) := rfl

theorem settleAll_settled (fuel : Nat) :
    settleAll (fuel + 1) (beside (settled delay) host notices) = some (beside (settled delay) host notices) := rfl

theorem isDrained_settled : (beside (settled delay) host notices).isDrained = true := by
  rw [isDrained, ← Array.all_toList]
  rfl

theorem within_writeLate (m : Machine Host) (services : Services) (sink : Sink) (kept : List String)
    (value : Value) :
    (beside m ⟨services, ⟨sink, kept⟩, #[value]⟩ notices).Within (Hello.writeLate 0) 6 .undefined
      (beside m ⟨services, ⟨sink, sink.keeps Hello.lateLine ++ kept⟩, #[.string "timeout"]⟩
        (sink.tells Hello.lateLine ++ notices)) := by
  unfold Hello.writeLate
  refine (within_beside_setOutput _ _ _ _ _).bind ?_ (by decide)
  refine (within_beside_output _ _ _ _).bind ?_ (by decide)
  refine (within_beside_log _ _ _ _ _ _ _).bind ?_ (by decide)
  exact .pure _ _ _

/-- What the loop does once the script is over: the timer fires, and its continuation writes. -/
theorem drain_stage (services : Services) (sink : Sink) (kept : List String) (value : Value) {fuel : Nat}
    (enough : 13 ≤ fuel) :
    drain fuel (beside (stage delay 0 .fresh .fresh [0, 1]) ⟨services, ⟨sink, kept⟩, #[value]⟩ notices) =
      some { beside (settled delay)
          ⟨services, ⟨sink, sink.keeps Hello.lateLine ++ kept⟩, #[.string "timeout"]⟩
          (sink.tells Hello.lateLine ++ .timerFired ⟨1⟩ :: .draining :: notices) with attached := false } := by
  obtain ⟨before, few, phase, queued, fires⟩ :=
    after_fires ⟨services, ⟨sink, kept⟩, #[value]⟩ (.draining :: notices) delay
  obtain ⟨count, small, writes⟩ := within_writeLate (.timerFired ⟨1⟩ :: .draining :: notices)
    (entered delay) services sink kept value
  have enters := (after_add fires 1).trans (after_enters _ _ _ queued)
  have written := (after_add enters count).trans (writes (fun value => .finish (.ok value)) (.continuation 0 1))
  have concluded := (after_add written 1).trans (after_concludes _ _ delay)
  obtain ⟨rest, rfl⟩ := Nat.exists_eq_add_of_le (show before + 1 + count + 1 + 1 ≤ fuel by omega)
  have settled := (settleAll_skip concluded).trans (settleAll_settled _ _ delay rest)
  rw [drain, Nat.add_assoc _ 1 rest, Nat.add_comm 1 rest]
  refine (congrArg (Option.bind · _) settled).trans ?_
  rw [Option.bind_some, if_pos (isDrained_settled _ _ delay), tearDown_drained (isDrained_settled _ _ delay)]
  rfl

end Drain

section Whole

variable (config : Config) (services : Services) (sink : Sink)

def finished : HelloRun where
  services := visited services
  lines := (sink.keeps Hello.lateLine ++ heard config services sink).reverse
  notices :=
    (sink.tells Hello.lateLine ++ .timerFired ⟨1⟩ :: .draining :: started config services sink).reverse ++
      [.runFinished ⟨1, 1, 0, 1⟩]
  result := .ok finalReport

def refused (message : String) : HelloRun where
  services := services
  lines := []
  notices := (.hostCall "get_url" 1 :: opened config).reverse
  result := .error (.host (.collaborator "get_url" message))

def ending : Except Failure Hello.Started → Outcome
  | .ok _ => .ok .undefined
  | .error failure => .error failure

theorem runScript_start {result : Except Failure Hello.Started} {n : Machine Host}
    (body : (prepared config services sink).Within
      (Hello.run (context config) config.delay.toNat).run 60 result n) (busy : n.script = .busy) :
    runScript patience (.start { services, console := { sink } } (.run (program config) .finish)) =
      some { n with focus := .idle, script := .ended (ending result) } := by
  have whole : (beside empty ⟨services, ⟨sink, []⟩, #[.null]⟩ []).Within
      (prepare config >>= fun context => (Hello.run context config.delay.toNat).run) 64 result n :=
    (within_prepare config services sink).bind body (by decide)
  have one : program config = Act.programWith
      (prepare config >>= fun context => (Hello.run context config.delay.toNat).run) ending := rfl
  rw [one]
  exact runScript_program rfl rfl whole busy (by decide)

theorem of?_echo (echo : services.urls = .echo) :
    of? config services sink = some (finished config services sink) := by
  have body := runScript_start config services sink (within_run echo) rfl
  have drained := drain_stage (started config services sink) config.delay.toNat (visited services) sink
    (heard config services sink) (.string "abc") (show 13 ≤ patience by decide)
  simp only [of?, tryRun, body]
  exact (congrArg (Option.bind · _) drained).trans rfl

theorem of?_failing {message : String} (failing : services.urls = .failing message) :
    of? config services sink = some (refused config services message) := by
  have body := runScript_start config services sink (within_run_failing failing) rfl
  simp only [of?, tryRun, body]
  rfl

end Whole

theorem lines_eq (greeter : Greeter) (constant : String) :
    [Hello.pageLine, Hello.greetingLine greeter, Hello.subscriptionLine, Hello.worldLine constant,
      Hello.lateLine] = Hello.lines greeter.word constant := by
  have page : Hello.pageLine = "get_url:  get_url 17" := rfl
  have subscription : Hello.subscriptionLine =
    "notifyOnThingStatesChange notifyOnThingStatesChange thing_id false" := rfl
  have late : Hello.lateLine = "timeout" := rfl
  have greeting : Hello.greetingLine greeter = greeter.word ++ " friend" := by
    have word : Hello.greetingLine greeter = greeter.word ++ " " ++ "friend" := rfl
    rw [word, String.append_assoc]
    rfl
  have world : Hello.worldLine constant = "Hello World " ++ constant := by
    simp [Hello.worldLine, Console.line, Value.display]
  rw [page, subscription, late, greeting, world, Hello.lines]

variable {config : Config} {sink : Sink} {services : Services} {ids : List Nat}

theorem received_finished (services : Services) :
    (finished config services sink).Received sink (Hello.lines services.greeter.word config.constant) := by
  rw [← lines_eq services.greeter config.constant]
  cases sink with
  | kept => exact ⟨rfl, rfl⟩
  | logged => exact ⟨rfl, rfl⟩

theorem succeeded_finished (issued : services.notifier.Issued ids) :
    (finished config services sink).Succeeded config sink services ids where
  report := rfl
  received := received_finished services
  word := rfl
  greeted := List.reverse_cons
  subscribed := by
    refine ⟨services.notifier.next, ⟨0, "on_thing_change"⟩, ?_, issued.subscribe _ _,
      issued.entries_subscribe _ _⟩
    exact fun handed => Nat.lt_irrefl _ (issued.lt_next _ handed)
  urls := rfl
  things := rfl
  rule := rfl

theorem refused_refused (message : String) : (refused config services message).Refused message services where
  failed := ⟨_, rfl, rfl⟩
  silent := ⟨rfl, rfl⟩
  unchanged := rfl

theorem repeated_succ (count : Nat) {run : HelloRun} (played : of? config services sink = some run) :
    repeated config sink (count + 1) services = run :: repeated config sink count run.services := by
  rw [repeated.eq_def]
  dsimp only
  rw [played]

theorem repeated_echo (count : Nat) (echo : services.urls = .echo) :
    (repeated config sink count services).length = count ∧
      ∀ run ∈ repeated config sink count services, run.result = .ok finalReport ∧
        run.Received sink (Hello.lines services.greeter.word config.constant) := by
  induction count generalizing services with
  | zero => exact ⟨rfl, nofun⟩
  | succ count ih =>
    have still : (finished config services sink).services.urls = .echo := echo
    rw [repeated_succ count (of?_echo config services sink echo)]
    obtain ⟨length, alike⟩ := ih still
    refine ⟨congrArg Nat.succ length, fun run member => ?_⟩
    obtain rfl | later := List.mem_cons.mp member
    · exact ⟨rfl, received_finished services⟩
    · exact alike run later

theorem repeated_failing (count : Nat) {message : String} (failing : services.urls = .failing message) :
    repeated config sink count services = List.replicate count (refused config services message) := by
  induction count with
  | zero => rfl
  | succ count ih =>
    rw [repeated_succ count (of?_failing config services sink failing), List.replicate_succ]
    exact congrArg _ ih

/-- Whatever is configured and whatever was done with the services before: a run whose fetcher echoes
succeeds, with the same report, the lines of the script in their order and a subscription under a number
that was never handed out, and it comes to the same however often it is repeated; one whose fetcher fails
tells why, and does nothing. -/
theorem runs_repeat (config : Config) (sink : Sink) {services : Services} {ids : List Nat}
    (issued : services.notifier.Issued ids) :
    (services.urls = .echo →
      (∃ run, of? config services sink = some run ∧ run.Succeeded config sink services ids) ∧
      ∀ count, (repeated config sink count services).length = count ∧
        ∀ run ∈ repeated config sink count services, run.result = .ok finalReport ∧
          run.Received sink (Hello.lines services.greeter.word config.constant)) ∧
    ∀ message, services.urls = .failing message →
      (∃ run, of? config services sink = some run ∧ run.Refused message services) ∧
      ∀ count, (repeated config sink count services).length = count ∧
        ∀ run ∈ repeated config sink count services, run.Refused message services := by
  constructor
  · intro echo
    exact ⟨⟨_, of?_echo config services sink echo, succeeded_finished issued⟩,
      fun count => repeated_echo count echo⟩
  · intro message failing
    refine ⟨⟨_, of?_failing config services sink failing, refused_refused message⟩, fun count => ?_⟩
    rw [repeated_failing count failing]
    refine ⟨List.length_replicate, fun run member => ?_⟩
    rw [List.eq_of_mem_replicate member]
    exact refused_refused message

/-- Services that were used before: a name is known, and of two subscriptions the first is gone. -/
def used (urls : UrlFetcher) : Services where
  urls := urls
  greeter := ⟨"moin", ["Ada"]⟩
  notifier :=
    ((({} : Notifier).subscribe "lamp" ⟨0, "dim"⟩).2.subscribe "door" ⟨1, "ring"⟩).2.unsubscribe 1 |>.2

theorem runs_repeat_used :
    (used .echo).notifier.Issued [1, 2] ∧
    (∃ run, of? { delay := 0, constant := "x" } (used .echo) .logged = some run ∧
      run.notices.filterMap Notice.consoleLine? = ["get_url:  get_url 17", "moin friend",
        "notifyOnThingStatesChange notifyOnThingStatesChange thing_id false", "Hello World x", "timeout"] ∧
      run.services.greeter.greeted = ["Ada", "friend"]) ∧
    (∃ run failure, of? {} (used (.failing "no route")) .kept = some run ∧ run.result = .error failure ∧
      failedBecause failure = "Hello script failed: get_url failed: no route") ∧
    ∀ run ∈ repeated { initialOutput := some "null" } .kept 3 (used .echo), run.lines.length = 5 := by
  have issued (urls : UrlFetcher) : (used urls).notifier.Issued [1, 2] :=
    ((Notifier.Issued.start.subscribe "lamp" _).subscribe "door" _).unsubscribe 1
  refine ⟨issued .echo, ?_, ?_, fun run member => ?_⟩
  · obtain ⟨⟨run, played, succeeded⟩, _⟩ :=
      (runs_repeat { delay := 0, constant := "x" } .logged (issued .echo)).1 rfl
    exact ⟨run, played, succeeded.received.logged, succeeded.greeted⟩
  · obtain ⟨⟨run, played, refused⟩, _⟩ :=
      (runs_repeat {} .kept (issued (.failing "no route"))).2 "no route" rfl
    obtain ⟨failure, result, reason⟩ := refused.failed
    exact ⟨run, failure, played, result, reason⟩
  · obtain ⟨_, again⟩ := (runs_repeat { initialOutput := some "null" } .kept (issued .echo)).1 rfl
    rw [((again 3).2 run member).2.kept]
    rfl

end HelloRun
end RuleHost
