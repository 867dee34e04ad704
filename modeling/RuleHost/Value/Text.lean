import RuleHost.Decimal.Layout
import RuleHost.Text.Quoted
import RuleHost.Value

/-! The two texts of a value: what a script prints, and the debug text that tells kinds apart. -/

namespace RuleHost.Value

/-- Printed numbers are always positional, and a whole number is written without a point. -/
def displayNumbers : NumberLayout := ⟨false, fun _ => true⟩

/-- Debug texts keep a point in whole numbers and use an exponent below `10 ^ (-4)` and from `10 ^ 16`
on. -/
def debugNumbers : NumberLayout := ⟨true, fun exponent => -4 ≤ exponent && exponent < 16⟩

mutual

def display : Value → String
  | .undefined => "undefined"
  | .null => "null"
  | .bool value => toString value
  | .int value => toString value.toInt
  | .float value => displayNumbers.render value
  | .string text => text
  | .list items => "[" ++ ", ".intercalate (displayAll items) ++ "]"
  | .function ref => s!"[function {ref.name}]"

def displayAll : List Value → List String
  | [] => []
  | item :: rest => display item :: displayAll rest

end

def debugFunction (ref : FunctionRef) : String :=
  "ScriptFunction \x7b name: " ++ Text.quoted ref.name ++ ", .. \x7d"

mutual

/-- The debug text of a value, which names its kind. -/
def debug : Value → String
  | .undefined => "Undefined"
  | .null => "Null"
  | .bool value => s!"Bool({value})"
  | .int value => s!"Int({value.toInt})"
  | .float value => s!"Float({debugNumbers.render value})"
  | .string text => s!"String({Text.quoted text})"
  | .list items => "List([" ++ ", ".intercalate (debugAll items) ++ "])"
  | .function ref => s!"Function({debugFunction ref})"

def debugAll : List Value → List String
  | [] => []
  | item :: rest => debug item :: debugAll rest

end

/-- One line about a value: whether it is a bool, a float, an integer and a string, and its text. -/
def describe (v : Value) : String :=
  s!"b{v.isBool},f{v.isFloat},i{v.isInt},s{v.isString},{v.display}"

end RuleHost.Value
