import RuleHost.Table
import RuleHost.Value

/-! The variables of a rule: globals that rules share, and the named inputs and outputs of this rule.
The three are apart, so one name may stand for three values. -/

namespace RuleHost

structure Variables where
  globals : Table String Value := .empty
  inputs : Table String Value := .empty
  outputs : Table String Value := .empty
  ruleType : String := "condition"

namespace Variables

def setGlobal (rule : Variables) (name : String) (value : Value) : Variables :=
  { rule with globals := rule.globals.insert name value }

def setInput (rule : Variables) (name : String) (value : Value) : Variables :=
  { rule with inputs := rule.inputs.insert name value }

def setOutput (rule : Variables) (name : String) (value : Value) : Variables :=
  { rule with outputs := rule.outputs.insert name value }

/-- A variable that was never set is undefined. -/
def global (rule : Variables) (name : String) : Value :=
  (rule.globals.find? name).getD .undefined

def input (rule : Variables) (name : String) : Value :=
  (rule.inputs.find? name).getD .undefined

def output (rule : Variables) (name : String) : Value :=
  (rule.outputs.find? name).getD .undefined

end Variables
end RuleHost
