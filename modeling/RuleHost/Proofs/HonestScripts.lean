import RuleHost.HelloRun
import RuleHost.Proofs.HonestLoop
import RuleHost.Proofs.Publishing
import RuleHost.Proofs.ScenarioSteps

/-! The hello script and the scenarios are honest: whatever a step does, and whatever the callbacks do that it
defines, the subscriptions change by subscribing and unsubscribing alone. So whatever they publish is
delivered. -/

namespace RuleHost

open Loop

theorem HelloRun.keeps_prepare (rules : Act.Congruence Host) (config : Config) :
    rules.Keeps (HelloRun.prepare config) := by
  refine (rules.keeps_noteAll _).bind fun _ => ?_
  refine (rules.keeps_setOutput _ _).bind fun _ => ?_
  exact (rules.keeps_perform (.note _) nofun).bind fun _ => rules.pure rfl

theorem HelloRun.honest_program (config : Config) (host : Host) : (HelloRun.program config).Honest host := by
  apply Act.Honest.programWith
  exact (HelloRun.keeps_prepare (Act.honesty Host) config).bind fun context =>
    (Act.honesty Host).keeps_hello context config.delay.toNat

/-- The hello script leaves a notifier behind that came about by subscribing and unsubscribing. -/
theorem HelloRun.honest_reached {config : Config} {host : Host} {attached : Bool}
    {history : List (Record Host)} {m : Machine Host}
    (reachable : host.services.notifier.Reachable)
    (run : Machine.Traced (.start host (.run (HelloRun.program config) .finish) attached) history m) :
    m.Honest := by
  have honest : (Script.run (HelloRun.program config) .finish).Honest :=
    ⟨HelloRun.honest_program config, fun _ => trivial⟩
  exact (run.sound reachable honest).toHonest

namespace Scenario

def honesty : Congruence where
  toCongruence := Act.honesty State
  reading following := Act.honest_memory.bind fun state => following state state (.refl state)
  looking following := (Act.honest_perform .look).bind fun world => following world world rfl
  update _ frame := Act.honest_modifyMemory fun state =>
    congrArg (fun host => host.services.notifier) (frame state).1
  newScheduler := (Act.honest_perform .newScheduler).bind fun _ => Act.honest_modifyMemory fun _ => rfl
  attachCounted _ _ cell _ _ bodies := Act.honest_memory.bind fun _ => Act.honest_attach _ cell bodies

theorem honest_record (result : Result) : (record result).Honest := honesty.relates_record (.same result)

theorem honest_stepProgram (step : Step) (attempt : Bool) (state : State) :
    (stepProgram step attempt).Honest state := by
  have recorded : Act.Honest (do let result ← Step.run [] step; record result; return result) :=
    honesty.tells_recorded (.refl step)
  exact recorded.programWith _ state

theorem honest_unlessFailed {rest : Script State} (honest : rest.Honest) (outcome : Outcome) :
    (unlessFailed rest outcome).Honest := by
  cases outcome with
  | ok => exact honest
  | error => trivial

theorem honest_recorded {rest : Script State} (result : Result) (honest : rest.Honest) :
    (turnThen (.run (recordProgram result) (unlessFailed rest))).Honest :=
  fun _ => ⟨(honest_record result).programWith _, honest_unlessFailed honest⟩

theorem honest_instruction {rest : Script State} (honest : rest.Honest) (instruction : Instruction) :
    (instruction.script rest).Honest := by
  cases instruction with
  | step action attempt => exact ⟨honest_stepProgram action attempt, honest_unlessFailed honest⟩
  | turn => exact honest_recorded _ honest
  | advance | wait => exact fun _ => honest_recorded _ honest

theorem honest_script (setup : Setup) (instructions : List Instruction) :
    (script setup instructions).Honest := by
  have prepared : setup.prepare.Honest := honesty.keeps_prepare setup
  refine ⟨prepared.programWith _, honest_unlessFailed ?_⟩
  induction instructions with
  | nil => trivial
  | cons instruction rest ih => exact honest_instruction ih instruction

/-- Whatever is published, at whatever moment of a scenario, is delivered to the subscriptions that are live
then. -/
theorem delivered {setup : Setup} {instructions : List Instruction} {attached : Bool}
    {history : List (Record State)} {m n : Machine State} {thing : String} {value : Value} {count total : Nat}
    (run : Machine.Traced (.start setup.state (script setup instructions) attached) history m)
    (returns : m.Returns (Host.publish thing value) count total n) :
    ∃ live deeds, m.Delivered thing value live deeds total { n with focus := m.focus } := by
  have sound := run.sound .start (honest_script setup instructions)
  exact Machine.delivered_of_returns sound.toHonest returns

end Scenario
end RuleHost
