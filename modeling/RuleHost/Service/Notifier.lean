import RuleHost.Table
import RuleHost.Value

/-! Subscriptions to the state changes of things. Each subscription has a number of its own, which is
never used again. -/

namespace RuleHost

structure Listener where
  thing : String
  callback : FunctionRef

structure Notifier where
  next : Nat := 1
  listeners : Table Nat Listener := .empty

namespace Notifier

/-- Enters a subscription under the next number. -/
def subscribe (notifier : Notifier) (thing : String) (callback : FunctionRef) : Nat × Notifier :=
  (notifier.next,
    { next := notifier.next + 1
      listeners := notifier.listeners.insert notifier.next ⟨thing, callback⟩ })

/-- Drops a subscription, and says whether it was there. -/
def unsubscribe (notifier : Notifier) (id : Nat) : Bool × Notifier :=
  (notifier.listeners.contains id, { notifier with listeners := notifier.listeners.erase id })

/-- The numbers of the subscriptions to a thing, oldest first. -/
def subscribed (notifier : Notifier) (thing : String) : List Nat :=
  (notifier.listeners.entries.filter fun entry => entry.2.thing == thing).map Prod.fst

/-- The callbacks of the subscriptions to a thing, oldest first. -/
def callbacks (notifier : Notifier) (thing : String) : List FunctionRef :=
  (notifier.listeners.entries.filter fun entry => entry.2.thing == thing).map (·.2.callback)

/-- What a script is told about a new subscription. The flag says that the callback is a function and
not compiled code. -/
def receipt (thing : String) : Value := .string s!"notifyOnThingStatesChange {thing} false"

end Notifier
end RuleHost
