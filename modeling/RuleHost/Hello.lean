import RuleHost.Context

/-! The hello script, which tries out a host: it reads an import, calls three globals, logs what they
return, and writes the output slot twice, at once and again after a delay. Run to its end it leaves
`timeout` in the slot; before the delay is over the slot holds `abc`. -/

namespace RuleHost.Hello

open Loop

/-- The constant that the script imports. -/
def importName : String := "a_string"

/-- The delay of the second write in milliseconds, unless configured. -/
def defaultDelay : UInt64 := 1000

/-- What the part of the script that runs at once leaves behind. -/
structure Started where
  /-- Resolved once the delayed write has happened. -/
  timeout : CellId
  /-- What the script was told about its subscription. -/
  subscription : Value

def Started.debug (started : Started) (timeout : Cell) : String :=
  "ScriptOutcome \x7b timeout: " ++ timeout.debug ++ ", subscription: " ++
    started.subscription.debug ++ " \x7d"

variable {σ : Type} [HostMemory σ]

/-- Writes the output slot a second time and logs it. -/
def writeLate (output : SlotId) : Act σ Value := do
  Host.setOutput output (.string "timeout")
  Host.log [← Host.output output]
  return .undefined

/-- The part of the script that runs at once. The first call that fails ends it. -/
def run (context : Context) (delay : Nat) : ExceptT Failure (Act σ) Started := do
  let call := fun name arguments => ExceptT.mk (Host.call (σ := σ) context.globals name arguments)
  let log := fun arguments => ExceptT.lift (Host.log (σ := σ) arguments)
  let page ← call "get_url" [.int 17]
  log [.string "get_url: ", page]
  let greeting ← call "hello" [.string "friend"]
  log [greeting]
  let onChange ← ExceptT.lift (Act.define fun _ => do
    Host.log [.string "thing_id"]
    return .undefined)
  let subscription ← call "notifyOnThingStatesChange"
    [.string "thing_id", .function ⟨onChange, "on_thing_change"⟩]
  log [.string "notifyOnThingStatesChange", subscription]
  let fired ← (Act.perform (.delay (some context.scheduler) delay .undefined)).orDetached
  let timeout ← (Act.attach (some context.scheduler) fired fun _ =>
    writeLate context.output).orDetached
  ExceptT.lift (Act.note (.writeScheduled delay))
  ExceptT.lift (Host.setOutput context.output (.string "abc"))
  log [.string "Hello World", context.imported importName]
  return ⟨timeout, subscription⟩

end RuleHost.Hello
