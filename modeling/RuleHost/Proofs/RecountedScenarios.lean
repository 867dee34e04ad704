import RuleHost.Proofs.RecountedActs
import RuleHost.Proofs.RecountedRuns
import RuleHost.Proofs.ScenarioSteps

/-! Scenarios that are the same but for who counts the continuations that they attach, in their steps and in
the steps of callbacks. A scenario may ask for the statistics and show them at any time; whatever it asks for,
its transcript is the same but for the counts of continuations that it tells. -/

namespace RuleHost.Scenario

open Loop

/-- Which memories scenarios treat alike: their scheduler is there, and they were told other counts at most. -/
def counts : Likeness State where
  alike known a b := a.Alike b ∧ a.scheduler < known
  mono less alike := ⟨alike.1, Nat.lt_of_lt_of_le alike.2 less⟩
  host alike := alike.1.host_eq

theorem rehosts_counts : counts.Rehosts := by
  rintro known a b ⟨alike, bound⟩ host
  cases alike with
  | of entered reported => exact ⟨.of { a with host } entered reported, bound⟩

/-- A scheduler may count instead of another, or of none, if it is there. -/
theorem recounted_attachCounted (counted recounted : Bool) (cell : CellId) {body other : Value → Act State Value}
    (bodies : ∀ value, (body value).Recounted counts Eq (other value)) :
    Act.Recounted counts Eq (do Act.attach (← counter counted) cell body)
      (do Act.attach (← counter recounted) cell other) := by
  intro known next last later
  refine .read fun more less a b alike => ?_
  obtain ⟨same, bound⟩ := alike
  have there (counted : Bool) (named : SchedulerId) :
      (if counted then some a.scheduler else none) = some named → named < more := by
    cases counted with
    | false => nofun
    | true => rintro ⟨⟩; exact bound
  cases same with
  | of =>
    refine Act.recounted_attachProgram (.inr ⟨there counted, there recounted⟩) cell bodies fun handle => ?_
    exact later more less handle handle rfl

/-- A new scheduler is there from then on. -/
theorem steady_newScheduler : Act.Steady counts
    (do let id ← Act.perform .newScheduler; Act.modifyMemory fun state => { state with scheduler := id }) := by
  intro known next other later
  refine .perform .newScheduler fun more less (id : SchedulerId) (also : SchedulerId) issued => ?_
  obtain ⟨rfl, there⟩ := issued
  refine .read fun size enough a b state => .write ⟨state.1.setScheduler id, ?_⟩ ?_
  · exact Nat.lt_of_lt_of_le there enough
  · exact later size (Nat.le_trans less enough) () () rfl

def recounting : Congruence where
  toCongruence := counts.congruence rehosts_counts
  reading following := Act.recounted_reading fun _ a b alike => following a b alike.1
  looking following := Act.recounted_looking following
  update kept frame := Act.recounted_modifyMemory fun _ a b alike =>
    ⟨kept a b alike.1, (frame a).2 ▸ alike.2⟩
  newScheduler := steady_newScheduler
  attachCounted := recounted_attachCounted

inductive Instruction.Recounted : Instruction → Instruction → Prop where
  | step {action other : Step} (actions : action.Recounted other) (attempt : Bool) :
      Recounted (.step action attempt) (.step other attempt)
  | turn : Recounted .turn .turn
  | advance (duration : Nat) : Recounted (.advance duration) (.advance duration)
  | wait (label : String) (limit : Nat) : Recounted (.wait label limit) (.wait label limit)

theorem recounted_stepProgram {step other : Step} (steps : step.Recounted other) (attempt : Bool) (known : Nat) :
    (stepProgram step attempt).Recounted counts known (stepProgram other attempt) := by
  have told : Act.Recounted counts Result.Alike (do let result ← Step.run [] step; record result; return result)
      (do let result ← Step.run [] other; record result; return result) := recounting.tells_recorded steps
  apply told.programWith
  intro result other alike
  cases alike with
  | same => rfl
  | stats | statsText | tableText | contextText => cases attempt <;> rfl

theorem recounted_unlessFailed {rest other : Script State} (rests : rest.Recounted counts 1 other)
    (outcome : Outcome) : (unlessFailed rest outcome).Recounted counts 1 (unlessFailed other outcome) := by
  cases outcome with
  | ok => exact rests
  | error => exact .finish _

theorem recounted_recorded (result : Result) {rest other : Script State} (rests : rest.Recounted counts 1 other) :
    (turnThen (.run (recordProgram result) (unlessFailed rest))).Recounted counts 1
      (turnThen (.run (recordProgram result) (unlessFailed other))) := by
  have recorded : (record result).Steady counts := recounting.relates_record (.same result)
  refine .pause (fun _ _ _ _ _ => rfl) fun _ => .run ?_ (recounted_unlessFailed rests)
  exact recorded.programWith (fun _ _ _ => rfl) 1

theorem recounted_instruction {rest other : Script State} (rests : rest.Recounted counts 1 other)
    {instruction also : Instruction} (instructions : instruction.Recounted also) :
    (instruction.script rest).Recounted counts 1 (also.script other) := by
  cases instructions with
  | step actions attempt =>
    exact .run (recounted_stepProgram actions attempt 1) (recounted_unlessFailed rests)
  | turn => exact recounted_recorded .nothing rests
  | advance duration => exact .pause (fun _ _ _ _ _ => rfl) fun _ => recounted_recorded .nothing rests
  | wait label limit =>
    refine .pause (fun more less a b alike => ?_) fun answer => recounted_recorded (ofAnswer answer) rests
    cases alike.1
    rfl

theorem recounted_script (setup : Setup) {instructions others : List Instruction}
    (recounted : List.Forall₂ Instruction.Recounted instructions others) :
    (script setup instructions).Recounted counts 1 (script setup others) := by
  have prepared : setup.prepare.Steady counts := recounting.keeps_prepare setup
  refine .run (prepared.programWith (fun _ _ _ => rfl) 1) (recounted_unlessFailed ?_)
  induction recounted with
  | nil => exact .finish _
  | cons instructions _ rests => exact recounted_instruction rests instructions

structure Ending.Alike (ending other : Ending) : Prop where
  outcome : ending.outcome = other.outcome
  output : ending.output = other.output
  stats : ending.stats.uncounted = other.stats.uncounted
  pending : ending.pending = other.pending
  handles : ending.handles = other.handles
  started : ending.started = other.started

structure Transcript.Alike (transcript other : Transcript) : Prop where
  setup : transcript.setup.Alike other.setup
  reports : List.Forall₂ Report.Alike transcript.reports other.reports
  rest : transcript.rest.Alike other.rest
  ending : transcript.ending.Alike other.ending

theorem alike_endingOf {m n : Machine State} (memory : m.memory.Alike n.memory)
    (world : m.toWorld.uncounted = n.toWorld.uncounted) (outcome : m.outcome? = n.outcome?) :
    (endingOf m).Alike (endingOf n) := by
  have table : (m.toWorld.scheduler m.memory.scheduler).uncounted =
      (n.toWorld.scheduler n.memory.scheduler).uncounted := by
    rw [memory.scheduler_eq]
    exact World.scheduler_uncounted world n.memory.scheduler
  have views := memory.views world
  exact
    { outcome := congrArg (fun outcome? => outcome?.getD (.ok .undefined)) outcome
      output := congrArg (fun host => (host.slot mainOutput).describe) memory.host_eq
      stats := TimerTable.stats_uncounted table
      pending := congrArg Table.size (TimerTable.pending_uncounted table)
      handles := views.1
      started := views.2 }

theorem alike_transcriptOf? {m n : Machine State} (mirrored : Mirrored counts m n) :
    Option.Rel Transcript.Alike (transcriptOf? m) (transcriptOf? n) := by
  obtain ⟨known, mirrors⟩ := mirrored
  obtain ⟨memory, _⟩ := mirrors.memory
  have reported : List.Forall₂ Report.Alike m.memory.reports.reverse n.memory.reports.reverse :=
    List.forall₂_reverse_iff.mpr memory.reports
  have rest := memory.report mirrors.uncounted (.same .nothing)
  have ending := alike_endingOf memory mirrors.uncounted (Machine.mirrors_outcome? mirrors)
  unfold transcriptOf?
  generalize m.memory.reports.reverse = first at reported ⊢
  generalize n.memory.reports.reverse = second at reported ⊢
  cases reported with
  | nil => exact .none
  | cons setup reports => exact .some ⟨setup, reports, rest, ending⟩

/-- Whoever counts the continuations of a written scenario, in its steps and in callbacks inside callbacks, its
transcript is the same but for the counts of continuations, in whatever way its loop is left. -/
theorem play_recounted (mode : Mode) (setup : Setup) {instructions others : List Instruction}
    (recounted : List.Forall₂ Instruction.Recounted instructions others) :
    Option.Rel Transcript.Alike (play mode setup instructions) (play mode setup others) := by
  have alike : counts.alike 1 setup.state setup.state :=
    ⟨.of setup.state (fun _ => .none) .nil, Nat.zero_lt_one⟩
  have started := Machine.mirrored_start (recounted_script setup recounted) alike (mode != .bare)
  refine rel_bind ?_ fun m n => alike_transcriptOf?
  cases mode with
  | drain => exact Machine.mirrored_run patience started
  | drainUnlessFailed => exact Machine.mirrored_tryRun patience started
  | bare | leave => exact Machine.mirrored_runAndLeave patience started

end RuleHost.Scenario
