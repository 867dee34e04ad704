import RuleHost.Hello

/-! What can be configured about a run of the hello script and its host. -/

namespace RuleHost

structure Config where
  /-- The constant that the script imports. -/
  constant : String := "from test.js"
  /-- The delay of the second write, in milliseconds. -/
  delay : UInt64 := Hello.defaultDelay
  /-- What the output slot holds when the script starts. -/
  initialOutput : Option String := none
  /-- The least level of the messages that the log shows. -/
  level : LogLevel := .default
  greeting : String := "hello"
  ruleType : String := "condition"
deriving DecidableEq

/-- What the output slot holds when the script starts, null if nothing or the word `null` is
configured. -/
def Config.initialValue (config : Config) : Value :=
  match config.initialOutput with
  | none => .null
  | some text => if text == "null" then .null else .string text

end RuleHost
