import RuleHost.Hello

/-! Relations between acts that every way of making acts keeps. What a script can ask of its host is made of a few
kinds of acts, so any such relation holds between each of these acts and itself, and so does it for the hello
script. -/

namespace RuleHost.Loop.Act

/-- A relation between acts, for each relation between their results. A change of the host may be made as long as it
leaves the subscriptions alone, and a look at the loop is not a request like others. -/
structure Congruence (σ : Type) [HostMemory σ] where
  Relates : {α : Type} → (α → α → Prop) → Act σ α → Act σ α → Prop
  pure : ∀ {α : Type} {related : α → α → Prop} {x y : α}, related x y → Relates related (Pure.pure x) (Pure.pure y)
  bind : ∀ {α β : Type} {related : α → α → Prop} {weaker : β → β → Prop} {act same : Act σ α}
    {rest other : α → Act σ β}, Relates related act same → (∀ x, related x x) →
      (∀ x y, related x y → Relates weaker (rest x) (other y)) → Relates weaker (act >>= rest) (same >>= other)
  perform : ∀ request : Request, request ≠ .look →
    Relates Eq (Act.perform request : Act σ request.Reply) (Act.perform request)
  define : ∀ {α : Type} (outcome : α → Outcome) {body same : List Value → Act σ α},
    (∀ arguments, Relates Eq (body arguments) (same arguments)) →
      Relates Eq (Program.define fun arguments => (body arguments).programWith outcome)
        (Program.define fun arguments => (same arguments).programWith outcome)
  call : ∀ (function : FunctionId) (arguments : List Value),
    Relates Eq (Act.call function arguments : Act σ Outcome) (Act.call function arguments)
  setTimeout : ∀ (scheduler : SchedulerId) (duration : Nat) {callback same : Act σ Unit},
    Relates Eq callback same →
      Relates Eq (Act.setTimeout scheduler duration callback) (Act.setTimeout scheduler duration same)
  attach : ∀ (counter : Option SchedulerId) (source : CellId) {body same : Value → Act σ Value},
    (∀ value, Relates Eq (body value) (same value)) →
      Relates Eq (Act.attach counter source body) (Act.attach counter source same)
  get : Relates Eq (Host.get : Act σ Host) Host.get
  modify : ∀ {change : Host → Host}, (∀ host, (change host).services.notifier = host.services.notifier) →
    Relates Eq (Host.modify change : Act σ Unit) (Host.modify change)
  callGlobal : ∀ (global : Global) (arguments : List Value) (enough : global.arity ≤ arguments.length),
    Relates Eq (Host.callGlobal global arguments enough : Act σ Outcome) (Host.callGlobal global arguments enough)

namespace Congruence

variable {σ α β ε : Type} [HostMemory σ] (rules : Congruence σ)

/-- An act is related to itself, with the same result. -/
def Keeps (act : Act σ α) : Prop := rules.Relates Eq act act

variable {rules} {weaker : β → β → Prop}

theorem bindSame {act same : Act σ α} {rest other : α → Act σ β} (first : rules.Relates Eq act same)
    (following : ∀ value, rules.Relates weaker (rest value) (other value)) :
    rules.Relates weaker (act >>= rest) (same >>= other) :=
  rules.bind first (fun _ => rfl) fun value _ same => same ▸ following value

theorem Keeps.bind {act : Act σ α} {rest other : α → Act σ β} (first : rules.Keeps act)
    (following : ∀ value, rules.Relates weaker (rest value) (other value)) :
    rules.Relates weaker (act >>= rest) (act >>= other) := bindSame first following

theorem Keeps.bindExcept {act : ExceptT ε (Act σ) α} {rest : α → ExceptT ε (Act σ) β} (first : rules.Keeps act.run)
    (following : ∀ value, rules.Keeps (rest value).run) : rules.Keeps (act >>= rest).run := by
  have whole : rules.Keeps (act.run >>= ExceptT.bindCont rest) := by
    refine first.bind fun result => ?_
    cases result with
    | ok value => exact following value
    | error error => exact rules.pure rfl
  exact whole

theorem Keeps.lift {act : Act σ α} (kept : rules.Keeps act) :
    rules.Keeps (ExceptT.lift act : ExceptT ε (Act σ) α).run := kept.bind fun _ => rules.pure rfl

theorem Keeps.orDetached {act : Act σ (Option α)} (kept : rules.Keeps act) : rules.Keeps act.orDetached.run := by
  refine Keeps.bindExcept kept.lift fun started => ?_
  cases started <;> exact rules.pure rfl

variable (rules)

theorem keeps_perform (request : Request) (blind : request ≠ .look) :
    rules.Keeps (Act.perform request) := rules.perform request blind

theorem keeps_callFunction (function : FunctionRef) (arguments : List Value) :
    rules.Keeps (Act.callFunction function arguments) := by
  refine Keeps.bind (rules.call function.id arguments) fun outcome => ?_
  cases outcome with
  | ok value => exact rules.pure rfl
  | error => exact rules.pure rfl

theorem keeps_log (arguments : List Value) : rules.Keeps (Host.log arguments) := by
  refine Keeps.bind rules.get fun host => ?_
  dsimp only
  split
  · exact rules.modify fun _ => rfl
  · exact rules.keeps_perform (.note _) nofun

theorem keeps_setOutput (slot : SlotId) (value : Value) : rules.Keeps (Host.setOutput slot value) :=
  rules.modify fun _ => rfl

theorem keeps_output (slot : SlotId) : rules.Keeps (Host.output slot) := Keeps.bind rules.get fun _ => rules.pure rfl

theorem keeps_newSlot : rules.Keeps Host.newSlot := by
  refine Keeps.bind rules.get fun host => ?_
  exact Keeps.bind (rules.modify fun _ => rfl) fun _ => rules.pure rfl

theorem keeps_noteAll (notices : List Notice) : rules.Keeps (Host.noteAll notices) := by
  induction notices with
  | nil => exact rules.pure rfl
  | cons notice rest ih => exact (rules.keeps_perform (.note notice) nofun).bind fun _ => ih

theorem keeps_hostFunction (function : HostFunction) (arguments : List Value) :
    rules.Keeps (Host.callFunction function arguments) := by
  unfold Host.callFunction
  split
  next => exact rules.pure rfl
  next =>
    split
    next => exact rules.callGlobal _ _ _
    next => exact rules.call _ _

theorem keeps_call (registry : Registry) (name : String) (arguments : List Value) :
    rules.Keeps (Host.call registry name arguments) := by
  unfold Host.call
  split
  next => exact rules.pure rfl
  next function _ =>
    apply (rules.keeps_perform (.note (.hostCall name arguments.length)) nofun).bind
    intro _
    exact rules.keeps_hostFunction function arguments

theorem keeps_callAll (arguments : List Value) (callbacks : List FunctionRef) :
    rules.Keeps (Host.callAll arguments callbacks) := by
  induction callbacks with
  | nil => exact rules.pure rfl
  | cons callback rest ih => exact (rules.keeps_callFunction callback arguments).bind fun _ => ih

theorem keeps_publish (thing : String) (state : Value) : rules.Keeps (Host.publish thing state) := by
  refine Keeps.bind rules.get fun host => ?_
  exact (rules.keeps_callAll _ _).bind fun _ => rules.pure rfl

theorem keeps_writeLate (output : SlotId) : rules.Keeps (Hello.writeLate output) := by
  apply (rules.keeps_setOutput _ _).bind
  intro _
  apply (rules.keeps_output _).bind
  intro _
  exact (rules.keeps_log _).bind fun _ => rules.pure rfl

theorem keeps_hello (context : Context) (delay : Nat) : rules.Keeps (Hello.run (σ := σ) context delay).run := by
  have call (name : String) (arguments : List Value) :
      rules.Keeps (ExceptT.mk (Host.call (σ := σ) context.globals name arguments)).run :=
    rules.keeps_call _ _ _
  have log (arguments : List Value) :
      rules.Keeps (ExceptT.lift (Host.log (σ := σ) arguments) : ExceptT Failure (Act σ) Unit).run :=
    (rules.keeps_log arguments).lift
  have told (_ : List Value) : rules.Keeps (do
      Host.log [.string "thing_id"]
      return .undefined : Act σ Value) :=
    (rules.keeps_log _).bind fun _ => rules.pure rfl
  have defined : rules.Keeps (Act.define fun _ => do
      Host.log [.string "thing_id"]
      return .undefined) := rules.define .ok told
  have written (fired : CellId) :
      rules.Keeps (Act.attach (some context.scheduler) fired fun _ => Hello.writeLate context.output) :=
    rules.attach _ _ fun _ => rules.keeps_writeLate context.output
  apply (call _ _).bindExcept
  intro page
  apply (log _).bindExcept
  intro _
  apply (call _ _).bindExcept
  intro greeting
  apply (log _).bindExcept
  intro _
  apply defined.lift.bindExcept
  intro onChange
  apply (call _ _).bindExcept
  intro subscription
  apply (log _).bindExcept
  intro _
  apply (rules.keeps_perform (.delay (some context.scheduler) delay .undefined) nofun).orDetached.bindExcept
  intro fired
  apply (written fired).orDetached.bindExcept
  intro timeout
  apply (rules.keeps_perform (.note _) nofun).lift.bindExcept
  intro _
  apply (rules.keeps_setOutput _ _).lift.bindExcept
  intro _
  apply (log _).bindExcept
  intro _
  exact rules.pure rfl

end Congruence
end RuleHost.Loop.Act
