import RuleHost.Proofs.ActCongruence
import RuleHost.Proofs.HostConfinement
import RuleHost.Proofs.ProgramRuns

/-! What a script can do to its host is honest: whatever it calls and publishes, the subscriptions change by
subscribing and unsubscribing alone. An act is honest if the program that begins with it is, as soon as what
follows is. -/

namespace RuleHost

/-- A call of a global changes the subscriptions at most once. -/
theorem Global.answer_alters (global : Global) {arguments : List Value}
    (enough : global.arity ≤ arguments.length) {services : Services} {reply : Global.Reply}
    (answered : global.answer arguments enough services = .ok reply) :
    ∃ deeds, Loop.Alters services.notifier deeds reply.services.notifier := by
  by_cases mine : global.port = .notifier
  · cases global with
    | notifyOnThingStatesChange =>
      obtain ⟨thing, _, rest⟩ := bind_eq_ok answered
      obtain ⟨callback, _, rest⟩ := bind_eq_ok rest
      cases rest
      exact ⟨_, .subscribed services.notifier thing callback⟩
    | unregisterThingStateListener =>
      obtain ⟨id, _, rest⟩ := bind_eq_ok answered
      cases rest
      cases live : services.notifier.listeners.contains id with
      | true => exact ⟨_, .unsubscribed live⟩
      | false =>
        have same : (services.notifier.unsubscribe id).2 = services.notifier :=
          Notifier.unsubscribe_false live
        refine ⟨[], ?_⟩
        change Loop.Alters services.notifier [] (services.notifier.unsubscribe id).2
        rw [same]
        exact .kept services.notifier
    | getUrl | hello | execThingAction | getThingState | getAllThingStates | cmdThingState | setGlobalVar
    | getGlobalVar | getNamedInputValue | setNamedOutputValue | ruleType => cases mine
  · have same : reply.services.notifier = services.notifier :=
      (global.answer_confined enough answered).ports .notifier (Ne.symm mine)
    rw [same]
    exact ⟨[], .kept services.notifier⟩

namespace Loop.Act

variable {σ α β : Type} [HostMemory σ]

def Honest (act : Act σ α) : Prop :=
  ∀ (next : α → Program σ) (memory : σ),
    (∀ value memory, (next value).Honest memory) → (act next).Honest memory

theorem Honest.pure (value : α) : Honest (Pure.pure value : Act σ α) :=
  fun _ memory later => later value memory

theorem Honest.bind {act : Act σ α} {rest : α → Act σ β} (first : act.Honest)
    (following : ∀ value, (rest value).Honest) : (act >>= rest).Honest := by
  intro next memory later
  apply first
  intro value memory
  exact following value next memory later

theorem Honest.programWith {act : Act σ α} (honest : act.Honest) (outcome : α → Outcome) (memory : σ) :
    (act.programWith outcome).Honest memory :=
  honest _ memory fun _ _ => trivial

theorem Honest.program {act : Act σ Value} (honest : act.Honest) (memory : σ) : act.program.Honest memory :=
  honest.programWith .ok memory

theorem honest_memory : (Act.memory : Act σ σ).Honest := fun _ memory later => later memory memory

/-- A change of the memory that leaves the subscriptions alone. -/
theorem honest_modifyMemory {change : σ → σ}
    (kept : ∀ memory, HostMemory.notifier (change memory) = HostMemory.notifier memory) :
    (Act.modifyMemory change).Honest := by
  intro next memory later
  refine ⟨⟨[], ?_⟩, later () _⟩
  rw [kept]
  exact .kept _

theorem honest_perform (request : Request) : (Act.perform request : Act σ request.Reply).Honest :=
  fun _ memory later reply => later reply memory

theorem honest_call (function : FunctionId) (arguments : List Value) :
    (Act.call function arguments : Act σ Outcome).Honest :=
  fun _ _ later => later

theorem honest_define (outcome : α → Outcome) {body : List Value → Act σ α}
    (honest : ∀ arguments, (body arguments).Honest) :
    Honest (Program.define fun arguments => (body arguments).programWith outcome) :=
  fun _ memory later =>
    ⟨fun arguments memory => (honest arguments).programWith outcome memory, fun id => later id memory⟩

theorem honest_setTimeout (scheduler : SchedulerId) (duration : Nat) {callback : Act σ Unit}
    (honest : callback.Honest) : (Act.setTimeout scheduler duration callback).Honest :=
  fun _ memory later => ⟨honest.programWith _, fun id => later id memory⟩

theorem honest_attach (counter : Option SchedulerId) (source : CellId) {body : Value → Act σ Value}
    (honest : ∀ value, (body value).Honest) : (Act.attach counter source body).Honest :=
  fun _ memory later => ⟨fun value => (honest value).program, fun cell => later cell memory⟩

end Loop.Act

namespace Host

open Loop

variable {σ : Type} [HostMemory σ]

theorem honest_get : (Host.get : Act σ Host).Honest := Act.honest_memory.bind fun _ => .pure _

theorem honest_modify {change : Host → Host}
    (kept : ∀ host, (change host).services.notifier = host.services.notifier) :
    (Host.modify change : Act σ Unit).Honest := by
  apply Act.honest_modifyMemory
  intro memory
  simp only [HostMemory.notifier, HostMemory.host_setHost, kept]

theorem honest_noteAll (notices : List Notice) : (Host.noteAll notices : Act σ Unit).Honest := by
  induction notices with
  | nil => exact .pure ()
  | cons notice rest ih => exact (Act.honest_perform (.note notice)).bind fun _ => ih

/-- What follows a look at the memory has to be honest with that memory only. -/
theorem honest_reading {α : Type} {rest : Host → Act σ α}
    (honest : ∀ next memory, (∀ result memory, (next result).Honest memory) →
      (rest (HostMemory.host memory) next).Honest memory) : (Host.get >>= rest : Act σ α).Honest :=
  honest

/-- The reply is written to the memory that was read, so it is one change of it. -/
theorem honest_callGlobal (global : Global) (arguments : List Value)
    (enough : global.arity ≤ arguments.length) :
    (Host.callGlobal global arguments enough : Act σ Outcome).Honest := by
  refine honest_reading fun next memory later => ?_
  cases answered : global.answer arguments enough (HostMemory.host memory).services with
  | error error => exact later _ memory
  | ok reply =>
    refine ⟨?_, honest_noteAll _ _ _ fun _ => later (.ok reply.value)⟩
    simp only [HostMemory.notifier, HostMemory.host_setHost]
    exact global.answer_alters enough answered

end Host

namespace Loop.Act

variable {σ : Type} [HostMemory σ]

/-- The rules of honesty: an act may have any result and is compared to no other. -/
def honesty (σ : Type) [HostMemory σ] : Congruence σ where
  Relates _ act _ := act.Honest
  pure _ := .pure _
  bind first reflexive following := first.bind fun x => following x x (reflexive x)
  perform request _ := honest_perform request
  define outcome _ _ bodies := honest_define outcome bodies
  call := honest_call
  setTimeout scheduler duration _ _ callbacks := honest_setTimeout scheduler duration callbacks
  attach counter source _ _ bodies := honest_attach counter source bodies
  get := Host.honest_get
  modify := Host.honest_modify
  callGlobal := Host.honest_callGlobal

end Loop.Act

namespace Host

open Loop

variable {σ : Type} [HostMemory σ]

theorem honest_callAll (arguments : List Value) (callbacks : List FunctionRef) :
    (Host.callAll arguments callbacks : Act σ Unit).Honest := (Act.honesty σ).keeps_callAll arguments callbacks

theorem honest_publish (thing : String) (state : Value) : (Host.publish thing state : Act σ Nat).Honest :=
  (Act.honesty σ).keeps_publish thing state

end Host
end RuleHost
