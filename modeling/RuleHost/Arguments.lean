import RuleHost.HostError

/-! Reading the arguments of a host function. A missing argument is an arity error that asks for one
more argument than its index; an argument of the wrong kind is a mismatch at its index. -/

namespace RuleHost.Arguments

def mismatch (name : String) (index : Nat) (expected : Kind) (found : Value) : HostError :=
  .typeMismatch name index expected found.kind

def required (name : String) (arguments : List Value) (index : Nat) : Except HostError Value :=
  match arguments[index]? with
  | some value => .ok value
  | none => .error (.arity name (index + 1) arguments.length)

/-- Reads an argument by a view that some values do not have. -/
def viewed {α : Type} (view : Value → Option α) (expected : Kind) (name : String)
    (arguments : List Value) (index : Nat) : Except HostError α := do
  let value ← required name arguments index
  match view value with
  | some seen => .ok seen
  | none => .error (mismatch name index expected value)

def string : String → List Value → Nat → Except HostError String := viewed Value.text? .string

/-- An integer, which may be written as a whole float. -/
def integer : String → List Value → Nat → Except HostError Int64 := viewed Value.toInt? .int

def function : String → List Value → Nat → Except HostError FunctionRef :=
  viewed Value.function? .function

def orUndefined (arguments : List Value) (index : Nat) : Value := arguments[index]?.getD .undefined

/-- The natural number below a bound that a value stands for. -/
def naturalBelow (bound : Nat) (value : Value) : Option Nat :=
  value.toInt?.bind fun n =>
    if 0 ≤ n.toInt && n.toInt < bound then some n.toInt.toNat else none

def listener : String → List Value → Nat → Except HostError Nat :=
  viewed (naturalBelow UInt64.size) .int

/-- The number of a state: 0 if it is left out, undefined or null, and otherwise 16 bits wide. -/
def stateNumber (name : String) (arguments : List Value) (index : Nat) : Except HostError Nat :=
  if (orUndefined arguments index).isNullish then .ok 0
  else viewed (naturalBelow UInt16.size) .int name arguments index

end RuleHost.Arguments
