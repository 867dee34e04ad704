import RuleHost.Binary64

/-! The loosely typed values that cross the boundary between a script and its host, with their kinds,
their accessors and their equality. Equality is partial: a value with NaN inside differs from itself,
and functions are equal only as the same function. -/

namespace RuleHost

/-- A function that a script has defined. The number tells functions apart; the name is only shown. -/
structure FunctionRef where
  id : Nat
  name : String
deriving DecidableEq

inductive Value where
  | undefined
  | null
  | bool (value : Bool)
  | int (value : Int64)
  | float (value : Binary64)
  | string (text : String)
  | list (items : List Value)
  | function (ref : FunctionRef)

inductive Kind where
  | undefined | null | bool | int | float | string | list | function
deriving DecidableEq

def Kind.name : Kind → String
  | .undefined => "undefined"
  | .null => "null"
  | .bool => "bool"
  | .int => "int"
  | .float => "float"
  | .string => "string"
  | .list => "list"
  | .function => "function"

namespace Value

instance : Inhabited Value := ⟨.undefined⟩

def kind : Value → Kind
  | .undefined => .undefined
  | .null => .null
  | .bool _ => .bool
  | .int _ => .int
  | .float _ => .float
  | .string _ => .string
  | .list _ => .list
  | .function _ => .function

def isNullish (v : Value) : Bool := v.kind == .undefined || v.kind == .null

def isBool (v : Value) : Bool := v.kind == .bool
def isInt (v : Value) : Bool := v.kind == .int
def isFloat (v : Value) : Bool := v.kind == .float
def isString (v : Value) : Bool := v.kind == .string
def isFunction (v : Value) : Bool := v.kind == .function

def text? : Value → Option String
  | .string text => some text
  | _ => none

def function? : Value → Option FunctionRef
  | .function ref => some ref
  | _ => none

def toBool? : Value → Option Bool
  | .bool value => some value
  | _ => none

def fitsInt64 (n : Int) : Bool := -0x8000000000000000 ≤ n && n < 0x8000000000000000

/-- The integer that a value stands for: itself, or the whole number that a float is exactly. -/
def toInt? : Value → Option Int64
  | .int value => some value
  | .float value => (value.toInt?.filter fitsInt64).map Int64.ofInt
  | _ => none

/-- The float that a value stands for: itself, or the one nearest to an integer. -/
def toFloat? : Value → Option Binary64
  | .float value => some value
  | .int value => some (Binary64.ofInt value.toInt)
  | _ => none

mutual

/-- Equality as scripts see it: floats by numeric value, lists element by element, functions by
identity. -/
def equals : Value → Value → Bool
  | .undefined, .undefined => true
  | .null, .null => true
  | .bool a, .bool b => a == b
  | .int a, .int b => a == b
  | .float a, .float b => a.equals b
  | .string a, .string b => a == b
  | .list a, .list b => equalsAll a b
  | .function f, .function g => f.id == g.id
  | _, _ => false

def equalsAll : List Value → List Value → Bool
  | [], [] => true
  | a :: rest, b :: others => equals a b && equalsAll rest others
  | _, _ => false

end

end Value

/-- The types that are carried across the boundary as values. -/
class ToValue (α : Type) where
  toValue : α → Value

export ToValue (toValue)

instance : ToValue Unit := ⟨fun _ => .undefined⟩
instance : ToValue Bool := ⟨.bool⟩
instance : ToValue Int64 := ⟨.int⟩
instance : ToValue Binary64 := ⟨.float⟩
instance : ToValue String := ⟨.string⟩
instance : ToValue FunctionRef := ⟨.function⟩
instance {α : Type} [ToValue α] : ToValue (List α) := ⟨fun items => .list (items.map toValue)⟩

/-- What is absent becomes null. -/
instance {α : Type} [ToValue α] : ToValue (Option α) := ⟨fun item => (item.map toValue).getD .null⟩

end RuleHost
