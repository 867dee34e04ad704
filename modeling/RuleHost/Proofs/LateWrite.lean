import RuleHost.Proofs.ContinuationCausality
import RuleHost.Proofs.HelloCalls
import RuleHost.Proofs.PendingTasks

/-! The second write of the hello script. Once its delay is over the continuation of its timer has run, and if
nobody else has written the slot meanwhile, nor logged the same line, it holds the second value and the line was
logged once. -/

namespace RuleHost

open Loop Loop.Machine

/-- A notice that adds no line to one console adds none to another of the same kind. -/
theorem Console.count_received {first second : Console} (sink : second.sink = first.sink) {notice : Notice}
    {notices : List Notice} {line : String}
    (same : (first.received (notice :: notices)).count line = (first.received notices).count line)
    (told : List Notice) :
    (second.received (told ++ notice :: notices)).count line = (second.received (told ++ notices)).count line := by
  revert same
  simp only [received, sink]
  cases first.sink with
  | kept => exact fun _ => rfl
  | logged =>
    intro same
    simp only [List.filterMap_reverse, List.filterMap_append, List.count_reverse, List.count_append,
      List.filterMap_cons] at same ⊢
    omega

variable {σ : Type}

/-- A continuation that has answered does not run. -/
theorem Loop.Machine.Life.debt_ne_of_answered {history : List (Record σ)} {m : Machine σ} (life : Life history m)
    {time : Nat} {target : CellId} {outcome : Outcome} (answered : ⟨time, .answer target outcome⟩ ∈ history) :
    m.debt? ≠ some target := by
  intro owed
  have settled := (life.causal.answered _ _ _ answered).2
  have pending := (life.owing.debt target owed).1
  exact CellState.ofOutcome_ne_pending _ _ _ (Option.some.inj (settled.symm.trans pending))

variable [HostMemory σ]

/-- A program that only reads and writes and tells the log, with what it does from this memory on: what the
log is told, newest first, and the memory in the end. -/
inductive Loop.Program.Delivers : Program σ → σ → List Notice → σ → Prop where
  | finish (value : Value) (memory : σ) : Delivers (.finish (.ok value)) memory [] memory
  | read {next : σ → Program σ} {memory last : σ} {told : List Notice}
      (rest : Delivers (next memory) memory told last) : Delivers (.read next) memory told last
  | write {next : Program σ} {memory changed last : σ} {told : List Notice}
      (sink : (HostMemory.host changed).console.sink = (HostMemory.host memory).console.sink)
      (rest : Delivers next changed told last) : Delivers (.write changed next) memory told last
  | note {next : Unit → Program σ} {memory last : σ} {notice : Notice} {told : List Notice}
      (rest : Delivers (next ()) memory told last) :
      Delivers (.perform (.note notice) next) memory (told ++ [notice]) last

theorem Loop.Program.Delivers.sink {program : Program σ} {memory last : σ} {told : List Notice}
    (delivers : program.Delivers memory told last) :
    (HostMemory.host last).console.sink = (HostMemory.host memory).console.sink := by
  induction delivers with
  | finish => rfl
  | read _ ih => exact ih
  | write sink _ ih => exact ih.trans sink
  | note _ ih => exact ih

namespace Hello

theorem delivers_log (m : Machine σ) (arguments : List Value) (next : Unit → Program σ) {told : List Notice}
    {last : σ} (rest : (next ()).Delivers (m.heard (Console.line arguments)).memory told last) :
    (Host.log (σ := σ) arguments next).Delivers m.memory
      (told ++ m.host.console.sink.tells (Console.line arguments)) last := by
  have sinks : (m.heard (Console.line arguments)).host.console.sink = m.host.console.sink := by rw [host_heard]
  refine .read ?_
  dsimp only [Pure.pure]
  rw [← host]
  cases sink : m.host.console.sink with
  | kept =>
    rw [Sink.tells, List.append_nil]
    rw [heard_of_kept sink] at rest sinks
    exact .read (.write sinks rest)
  | logged =>
    rw [heard_of_logged sink] at rest
    exact .note rest

theorem delivers_writeLate {output : SlotId} (m : Machine σ) (inside : output < m.host.slots.size) :
    (writeLate output).program.Delivers m.memory (m.host.console.sink.tells lateLine)
      ((m.put output (.string "timeout")).heard lateLine).memory := by
  have sink := sink_put m output (.string "timeout")
  have line : Console.line [(m.put output (.string "timeout")).host.slot output] = lateLine := by
    rw [slot_put inside, lateLine]
  have logs := delivers_log (m.put output (.string "timeout"))
    [(m.put output (.string "timeout")).host.slot output] (fun _ => .finish (.ok .undefined)) (.finish .undefined _)
  rw [line, sink, List.nil_append] at logs
  exact .read (.write sink (.read logs))

/-- A run in which the continuation that owes the value is the only one to write the slot and to log the line,
and in which nobody clears the timer that it waits for. -/
inductive Undisturbed (context : Context) (timer : TimerId) (timeout : CellId) (first : Machine σ) :
    List (Record σ) → Machine σ → Prop where
  | start : Undisturbed context timer timeout first [] first
  | own {history : List (Record σ)} {m next : Machine σ}
      (run : Undisturbed context timer timeout first history m) (mine : m.debt? = some timeout)
      (taken : m.step? = some next) :
      Undisturbed context timer timeout first (m.noted m.call? ++ history) next
  | other {history new : List (Record σ)} {m next : Machine σ}
      (run : Undisturbed context timer timeout first history m) (turn : Turn m new next)
      (slot : next.host.slot context.output = m.host.slot context.output)
      (lines : next.received.count lateLine = m.received.count lateLine)
      (kept : clearings context.scheduler timer new = 0) :
      Undisturbed context timer timeout first (new ++ history) next

/-- The continuation runs, and its two writes are still to come or have just been made. -/
inductive Writing (output : SlotId) (timeout : CellId) (count : Nat) (m : Machine σ) : Prop where
  | intro {source : CellId} {rest : Program σ} {told : List Notice} {last : σ}
      (running : m.focus = .program rest (.continuation source timeout))
      (delivers : rest.Delivers m.memory told last)
      (slot : (HostMemory.host last).slot output = .string "timeout")
      (lines : ((HostMemory.host last).console.received (told ++ m.notices)).count lateLine = count + 1)

/-- How far the continuation is. The line was logged so many times before. -/
inductive Stage (output : SlotId) (timeout : CellId) (count : Nat) (history : List (Record σ)) (m : Machine σ) :
    Prop where
  | before (unbegun : invocations timeout m.entries = 0) (slot : m.host.slot output = .string "abc")
      (lines : m.received.count lateLine = count)
  | during (writing : Writing output timeout count m)
  | after {time : Nat} {outcome : Outcome} (answered : ⟨time, .answer timeout outcome⟩ ∈ history)
      (slot : m.host.slot output = .string "timeout") (lines : m.received.count lateLine = count + 1)

theorem Undisturbed.traced {context : Context} {timer : TimerId} {timeout : CellId} {first m : Machine σ}
    {history : List (Record σ)} (run : Undisturbed context timer timeout first history m) :
    Traced first history m := by
  induction run with
  | start => exact .start
  | own _ _ taken ih => exact ih.turn (.step taken)
  | other _ turn _ _ _ ih => exact ih.turn turn

section Stages

variable {output : SlotId} {timeout : CellId} {count : Nat} {history earlier new : List (Record σ)}
  {m next : Machine σ}

omit [HostMemory σ] in
theorem memory_conclude (m : Machine σ) (outcome : Outcome) (owner : Owner σ) :
    (m.conclude outcome owner).memory = m.memory ∧ (m.conclude outcome owner).notices = m.notices := by
  have settled (w : Machine σ) (cell : CellId) (state : CellState) :
      (w.settle cell state).memory = w.memory ∧ (w.settle cell state).notices = w.notices := by
    unfold settle
    split <;> exact ⟨rfl, rfl⟩
  cases owner with
  | script next => exact ⟨rfl, rfl⟩
  | callback => exact ⟨rfl, rfl⟩
  | continuation source target =>
    cases outcome with
    | ok value => exact settled _ target _
    | error failure => exact settled _ target _

/-- When the continuation begins, its two writes are still to come. -/
theorem Writing.begin {source : CellId}
    (running : m.focus = .program (writeLate output).program (.continuation source timeout))
    (slot : m.host.slot output = .string "abc") (lines : m.received.count lateLine = count) :
    Writing output timeout count m := by
  have inside : output < m.host.slots.size := by
    apply Nat.lt_of_not_le
    intro outside
    rw [Host.slot, Array.getElem?_eq_none outside] at slot
    cases slot
  refine .intro running (delivers_writeLate m inside) ?_ ?_
  · exact (slot_heard _ _ _).trans (slot_put inside _)
  · have received := received_heard (m.put output (.string "timeout")) lateLine
    rw [received_put, Machine.received] at received
    have notices : ((m.put output (.string "timeout")).heard lateLine).notices =
        m.host.console.sink.tells lateLine ++ m.notices := by
      rw [← sink_put m output (.string "timeout")]
      rfl
    rw [notices] at received
    show (Console.received ((m.put output (.string "timeout")).heard lateLine).host.console _).count lateLine = _
    rw [received, List.count_append, lines, List.count_singleton_self]

/-- A step of the continuation brings it nearer to its end, or is its end. -/
theorem Writing.step (writing : Writing output timeout count m) (taken : m.step? = some next) :
    Stage output timeout count (m.noted m.call? ++ history) next := by
  obtain ⟨running, delivers, slot, lines⟩ := writing
  unfold step? at taken
  rw [running] at taken
  obtain rfl := Option.some.inj taken
  cases delivers with
  | finish value memory =>
    obtain ⟨memory, notices⟩ := memory_conclude m (.ok value) (.continuation _ timeout)
    have answer : m.call? = some (.answer timeout (.ok value)) := by rw [call?, running]
    have answered : ⟨m.now, .answer timeout (.ok value)⟩ ∈ m.noted m.call? ++ history := by
      rw [answer]
      exact List.mem_cons_self
    refine .after answered ?_ ?_
    · show (HostMemory.host (m.conclude _ _).memory).slot output = _
      rw [memory]
      exact slot
    · show ((HostMemory.host (m.conclude _ _).memory).console.received (m.conclude _ _).notices).count lateLine = _
      rw [memory, notices]
      exact lines
  | read rest => exact .during (.intro rfl rest slot lines)
  | write _ rest => exact .during (.intro rfl rest slot lines)
  | note rest =>
    rw [List.append_assoc] at lines
    exact .during (.intro rfl rest slot lines)

theorem Writing.keeps (writing : Writing output timeout count m) (scheduler : SchedulerId) (timer : TimerId) :
    clearings scheduler timer (m.noted m.call?) = 0 := by
  obtain ⟨running, delivers, _, _⟩ := writing
  rw [call?, running]
  cases delivers <;> rfl

/-- The continuation does not owe its value before it runs, nor after it has answered. -/
theorem Stage.owed (stage : Stage output timeout count history m) (life : Life (history ++ earlier) m)
    (mine : m.debt? = some timeout) : Writing output timeout count m := by
  cases stage with
  | before unbegun => exact absurd unbegun (Nat.ne_of_gt (life.causal.running timeout mine))
  | during writing => exact writing
  | after answered => exact absurd mine (life.debt_ne_of_answered (List.mem_append_left earlier answered))

/-- A turn of somebody else may let the continuation begin. -/
theorem Stage.other (stage : Stage output timeout count history m) (life : Life (history ++ earlier) m)
    {time : Nat} {counter : Option SchedulerId} {source : CellId}
    (made : ⟨time, .attach counter source (fun _ => (writeLate output).program) timeout⟩ ∈ earlier)
    (turn : Turn m new next) (slot : next.host.slot output = m.host.slot output)
    (lines : next.received.count lateLine = m.received.count lateLine) :
    Stage output timeout count (new ++ history) next := by
  cases stage with
  | before unbegun holds received =>
    have causality := continuations_causal life (List.mem_append_right history made)
    by_cases begun : invocations timeout m.entries < invocations timeout next.entries
    · obtain ⟨value, _, _, _, running⟩ := causality.begins new next turn begun
      exact .during (.begin running (slot.trans holds) (lines.trans received))
    · exact .before (by omega) (slot.trans holds) (lines.trans received)
  | during writing =>
    cases turn with
    | step taken => exact writing.step taken
    | note notice =>
      obtain ⟨running, delivers, holds, received⟩ := writing
      exact .during (.intro running delivers holds ((Console.count_received delivers.sink lines _).trans received))
    | reorder =>
      obtain ⟨running, delivers, holds, received⟩ := writing
      exact .during (.intro running delivers holds received)
    | wake idle =>
      obtain ⟨running, _⟩ := writing
      cases idle.symm.trans running
  | after answered holds received =>
    exact .after (List.mem_append_right new answered) (slot.trans holds) (lines.trans received)

end Stages

/-- From the moment on at which the continuation waits for its source, its stages follow one another, and its
timer is not cleared. -/
theorem Undisturbed.stage {context : Context} {timer : TimerId} {timeout : CellId} {count : Nat}
    {history earlier : List (Record σ)} {first m : Machine σ}
    (run : Undisturbed context timer timeout first history m) (life : Life earlier first) {time : Nat}
    {counter : Option SchedulerId} {source : CellId}
    (made : ⟨time, .attach counter source (fun _ => (writeLate context.output).program) timeout⟩ ∈ earlier)
    (start : Stage context.output timeout count [] first) :
    Stage context.output timeout count history m ∧ clearings context.scheduler timer history = 0 := by
  have both (new history : List (Record σ)) (left : clearings context.scheduler timer new = 0)
      (right : clearings context.scheduler timer history = 0) :
      clearings context.scheduler timer (new ++ history) = 0 := by
    rw [clearings, List.countP_append]
    exact (congrArg₂ (· + ·) left right).trans (Nat.add_zero 0)
  induction run with
  | start => exact ⟨start, rfl⟩
  | own run mine taken ih =>
    have writing := ih.1.owed (life.traced run.traced) mine
    exact ⟨writing.step taken, both _ _ (writing.keeps _ _) ih.2⟩
  | other run turn slot lines kept ih =>
    exact ⟨ih.1.other (life.traced run.traced) made turn slot lines, both _ _ kept ih.2⟩

section Whole

variable {context : Context} {delay : Nat} {m last n : Machine σ} {lines : List String} {task : TaskId}
  {fired timeout : CellId} {earlier later : List (Record σ)} {body : Program σ} {owner : Owner σ}

/-- Once the delay is over the continuation has answered. -/
theorem Launched.answered (launched : Launched context delay m lines task fired timeout last)
    (life : Life earlier (last.proceed body owner)) (run : Traced (last.proceed body owner) later n)
    (kept : clearings context.scheduler (m.toWorld.scheduler context.scheduler).ids.issue.1 later = 0)
    (past : n.Past (last.now + delay)) : ∃ time outcome, ⟨time, .answer timeout outcome⟩ ∈ later := by
  have punctual := (life.traced run).punctual
  have fresh (job : Job σ) (born : Nat) : (Task.mk job .fresh born).Pending :=
    ⟨Phase.noConfusion, Phase.noConfusion⟩
  have timer := life.fate run launched.timer (fresh _ _)
  have resolved : n.toWorld.state? fired = some (.resolved .undefined (last.now + delay)) := by
    cases timer.fired punctual past kept with
    | resolved _ left => exact left
    | cleared taken => exact absurd kept (Nat.ne_of_gt taken)
  have continuation := life.fate run launched.continuation (fresh _ _)
  have latest : max last.now (last.now + delay) = last.now + delay := Nat.max_eq_right (Nat.le_add_right _ _)
  cases continuation.answered punctual resolved (latest.symm ▸ past) with
  | continued _ _ answered => exact ⟨_, _, answered⟩
  | lost abandoned => cases resolved.symm.trans abandoned

/-- Once the delay is over the slot holds the second value, and the line was logged once more. -/
theorem Launched.written (launched : Launched context delay m lines task fired timeout last)
    (life : Life earlier (last.proceed body owner))
    (run : Undisturbed context (m.toWorld.scheduler context.scheduler).ids.issue.1 timeout
      (last.proceed body owner) later n) (past : n.Past (last.now + delay)) :
    n.host.slot context.output = .string "timeout" ∧
      n.received.count lateLine = last.received.count lateLine + 1 := by
  obtain ⟨⟨moment, call⟩, made, starts, _⟩ := life.filed.record launched.continuation
  obtain rfl := Call.attach_of_job starts
  have unbegun := life.causal.unbegun life.owing launched.continuation Phase.noConfusion rfl
  obtain ⟨stage, kept⟩ := run.stage life made (.before unbegun launched.slot rfl)
  obtain ⟨time, outcome, answered⟩ := launched.answered life run.traced kept past
  have whole := life.traced run.traced
  have known := List.mem_append_left earlier answered
  cases stage with
  | before still => exact absurd still (Nat.ne_of_gt (whole.causal.answered _ _ _ known).1)
  | during writing =>
    obtain ⟨running, _⟩ := writing
    have owed : n.debt? = some timeout := by simp only [debt?, running]
    exact absurd owed (whole.debt_ne_of_answered known)
  | after _ slot received => exact ⟨slot, received⟩

end Whole

/-- The script asks three host functions, whatever they are, as long as they leave its scheduler and its slot
alone. The first that fails ends it with its error, in the machine in which the call has ended: the scheduler
and the slot are as they were, and the console has the lines of the calls before. If none fails, one timer is
scheduled, and the slot holds the first value; once the loop has run past the delay, with no other writer and
nobody who clears the timer, it holds the second value, and the line was logged exactly once. If every call that
is made comes back, it is one of the two. -/
theorem run_stops_or_writes (context : Context) (m : Machine σ) (delay : Nat)
    (hosted : m.hosts (some context.scheduler) = true) (inside : context.output < m.host.slots.size) :
    (∀ asked lines global arguments failure own n, Asks context m asked lines global arguments →
      Answers context asked global.name arguments (.error failure) own n →
        m.Yields (run context delay).run (.error failure) n ∧ Spares context m n (lines ++ own)) ∧
    (∀ asked lines arguments subscription own n,
      Asks context m asked lines .notifyOnThingStatesChange arguments →
      Answers context asked "notifyOnThingStatesChange" arguments (.ok subscription) own n →
        let last :=
          launched context delay (n.heard (Console.line [.string "notifyOnThingStatesChange", subscription]))
        m.Yields (run context delay).run (.ok ⟨n.cells.size + 1, subscription⟩) last ∧
        Launched context delay m (lines ++ own ++ lastLines context subscription) n.tasks.size n.cells.size
          (n.cells.size + 1) last ∧
        ∀ earlier next owner later final, Life earlier (m.proceed ((run context delay).run next) owner) →
          Undisturbed context (m.toWorld.scheduler context.scheduler).ids.issue.1 (n.cells.size + 1)
            (last.proceed (next (.ok ⟨n.cells.size + 1, subscription⟩)) owner) later final →
          final.Past (last.now + delay) →
            final.host.slot context.output = .string "timeout" ∧
              final.received.count lateLine = last.received.count lateLine + 1) ∧
    ((∀ asked lines global arguments, Asks context m asked lines global arguments →
        ∃ outcome own n, Answers context asked global.name arguments outcome own n) →
      (∃ asked lines global arguments failure own n, Asks context m asked lines global arguments ∧
        Answers context asked global.name arguments (.error failure) own n) ∨
      ∃ asked lines arguments subscription own n,
        Asks context m asked lines .notifyOnThingStatesChange arguments ∧
          Answers context asked "notifyOnThingStatesChange" arguments (.ok subscription) own n) := by
  refine ⟨?_, ?_, asks_end⟩
  · intro asked lines global arguments failure own n asks answers
    exact ⟨asks.fails answers delay, asks.spares.trans answers.spares⟩
  · intro asked lines arguments subscription own n asks answers
    obtain ⟨yields, launched⟩ := asks.launches answers hosted inside delay
    refine ⟨yields, launched, ?_⟩
    intro earlier next owner later final life run past
    obtain ⟨count, steps⟩ := yields
    obtain ⟨during, returned⟩ := after_traced (steps next owner)
    exact launched.written (life.traced returned) run past

private def plain : Context := HelloRun.context {}

private def shy : Context :=
  { plain with globals := plain.globals.register ⟨"hello", 2, .global .hello, by rintro _ ⟨⟩; decide⟩ }

private def paged : Machine Host :=
  (HelloRun.empty.note (.hostCall "get_url" 1)).replied ⟨.string "get_url 17", {}, none⟩

private theorem page_answers {context : Context}
    (found : context.globals.find? "get_url" = some (.ofGlobal .getUrl)) :
    Answers context HelloRun.empty "get_url" [.int 17] (.ok (.string "get_url 17")) [] paged :=
  (answers_global found rfl (by decide) (by decide) HelloRun.empty).2 _ (answer_page rfl)

private def greeted : Machine Host :=
  ((paged.heard pageLine).note (.hostCall "hello" 1)).replied
    ⟨.string "hello friend", { greeter := (({} : Greeter).greet "friend").2 }, none⟩

private theorem greeting_answers : Answers plain (paged.heard pageLine) "hello" [.string "friend"]
    (.ok (.string "hello friend")) [] greeted :=
  (answers_global (Registry.find?_globals_name .hello) rfl (by decide) (by decide) _).2 _ answer_greeting

private def subscribing : Machine Host := (greeted.heard (Console.line [.string "hello friend"])).defined notified

private theorem subscribing_asks : Asks plain HelloRun.empty subscribing
    ([] ++ [pageLine] ++ ([] ++ [Console.line [.string "hello friend"]])) .notifyOnThingStatesChange
      [.string "thing_id", .function ⟨0, "on_thing_change"⟩] :=
  .subscription (.greeting (page_answers (Registry.find?_globals_name .getUrl))) greeting_answers

private def subscribed : Machine Host :=
  (subscribing.note (.hostCall "notifyOnThingStatesChange" 2)).replied ⟨Notifier.receipt "thing_id",
    { subscribing.services with
      notifier := (subscribing.services.notifier.subscribe "thing_id" ⟨0, "on_thing_change"⟩).2 },
    some (.listenerRegistered 1 "thing_id")⟩

private theorem subscription_answers : Answers plain subscribing "notifyOnThingStatesChange"
    [.string "thing_id", .function ⟨0, "on_thing_change"⟩] (.ok (Notifier.receipt "thing_id")) [] subscribed :=
  (answers_global (Registry.find?_globals_name .notifyOnThingStatesChange) rfl (by decide) (by decide) _).2 _
    (answer_subscription _)

private def hour (count : Nat) : Machine Host :=
  let last := launched plain 0 (subscribed.heard
    (Console.line [.string "notifyOnThingStatesChange", Notifier.receipt "thing_id"]))
  let returned := last.proceed (.finish (.ok .undefined)) (.script .finish)
  (after count returned).getD returned

private theorem hour_undisturbed : ∃ later, Undisturbed plain ⟨1⟩ 1 (hour 0) later (hour 11) := by
  have first : Undisturbed plain ⟨1⟩ 1 (hour 0) [] (hour 0) := .start
  have returned := first.other (.step (show _ = some (hour 1) from rfl)) rfl rfl rfl
  have ended := returned.other (.step (show _ = some (hour 2) from rfl)) rfl rfl rfl
  have fired := ended.other (.step (show _ = some (hour 3) from rfl)) rfl rfl rfl
  have begun := fired.other (.step (show _ = some (hour 4) from rfl)) rfl rfl rfl
  have written := (begun.own rfl (show _ = some (hour 5) from rfl)).own rfl (show _ = some (hour 6) from rfl)
  have read := (written.own rfl (show _ = some (hour 7) from rfl)).own rfl (show _ = some (hour 8) from rfl)
  have logged := (read.own rfl (show _ = some (hour 9) from rfl)).own rfl (show _ = some (hour 10) from rfl)
  exact ⟨_, logged.own rfl (show _ = some (hour 11) from rfl)⟩

theorem run_stops_or_writes_twice :
    (∃ n, HelloRun.empty.Yields (run shy 0).run (.error (.host (.arity "hello" 2 1))) n ∧
      Spares shy HelloRun.empty n [pageLine]) ∧
    ∃ (last : Machine Host) (later : List (Record Host)) (final : Machine Host),
      HelloRun.empty.Yields (run plain 0).run (.ok ⟨1, Notifier.receipt "thing_id"⟩) last ∧
      last.host.slot 0 = .string "abc" ∧
      Undisturbed plain ⟨1⟩ 1 (last.proceed (.finish (.ok .undefined)) (.script .finish)) later final ∧
      final.host.slot 0 = .string "timeout" ∧
      final.received.count lateLine = last.received.count lateLine + 1 := by
  have paging : shy.globals.find? "get_url" = some (.ofGlobal .getUrl) :=
    (Registry.find?_register _ _ _).trans ((if_neg (by decide)).trans (Registry.find?_globals_name .getUrl))
  have needy : shy.globals.find? "hello" = some ⟨"hello", 2, .global .hello, by rintro _ ⟨⟩; decide⟩ :=
    (Registry.find?_register _ _ _).trans (if_pos rfl)
  have greeting : Answers shy (paged.heard pageLine) "hello" [.string "friend"]
      (.error (.host (.arity "hello" 2 1))) [] _ := answers_short needy (by decide) _
  have stops := (run_stops_or_writes shy HelloRun.empty 0 rfl (by decide)).1 _ _ _ _ _ _ _
    (.greeting (page_answers paging)) greeting
  have life := (Life.start ({} : Host) (.run (Act.programWith (run plain 0).run HelloRun.ending) .finish) true).turn
    (.step rfl)
  obtain ⟨later, undisturbed⟩ := hour_undisturbed
  obtain ⟨yields, launched, late⟩ := (run_stops_or_writes plain HelloRun.empty 0 rfl (by decide)).2.1 _ _ _ _ _ _
    subscribing_asks subscription_answers
  have past : (hour 11).Past 0 := .inr ⟨rfl, rfl, rfl⟩
  have writes := late _ (fun result => .finish (HelloRun.ending result)) (.script .finish) _ _ life undisturbed past
  exact ⟨⟨_, stops⟩, _, later, hour 11, yields, launched.slot, undisturbed, writes⟩

end Hello
end RuleHost
