import RuleHost.Global

/-! What the host remembers while scripts run: its services, its console and the output slots. -/

namespace RuleHost

/-- Where the lines of a console go: it keeps them, or they become messages of the log. -/
inductive Sink where
  | kept | logged
deriving DecidableEq

structure Console where
  sink : Sink := .kept
  /-- The lines kept so far, newest first. -/
  kept : List String := []

namespace Console

/-- The arguments of one call, joined by single spaces. -/
def line (arguments : List Value) : String := " ".intercalate (arguments.map Value.display)

/-- The lines kept so far, oldest first. -/
def lines (console : Console) : List String := console.kept.reverse

end Console

abbrev SlotId := Nat

structure Host where
  services : Services := {}
  console : Console := {}
  /-- The output slots; a new slot holds null. -/
  slots : Array Value := #[.null]

namespace Host

def slot (host : Host) (id : SlotId) : Value := host.slots[id]?.getD .null

def setSlot (host : Host) (id : SlotId) (value : Value) : Host :=
  { host with slots := host.slots.setIfInBounds id value }

def debugSlot (host : Host) (id : SlotId) : String :=
  "OutputSlot \x7b cell: RefCell \x7b value: " ++ (host.slot id).debug ++ " \x7d \x7d"

end Host

/-- A memory that holds the host's. -/
class HostMemory (σ : Type) where
  host : σ → Host
  setHost : Host → σ → σ
  host_setHost : ∀ (h : Host) (memory : σ), host (setHost h memory) = h
  setHost_host : ∀ memory : σ, setHost (host memory) memory = memory
  setHost_setHost : ∀ (h k : Host) (memory : σ), setHost h (setHost k memory) = setHost h memory

attribute [simp] HostMemory.host_setHost HostMemory.setHost_host HostMemory.setHost_setHost

instance : HostMemory Host where
  host := id
  setHost h _ := h
  host_setHost _ _ := rfl
  setHost_host _ := rfl
  setHost_setHost _ _ _ := rfl

end RuleHost
