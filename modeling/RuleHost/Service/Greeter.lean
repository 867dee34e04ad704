import RuleHost.Value

/-! Greets by name with a fixed word, and remembers the names. -/

namespace RuleHost

structure Greeter where
  word : String := "hello"
  /-- The names greeted so far, newest first. -/
  names : List String := []

namespace Greeter

def greet (greeter : Greeter) (name : String) : Value × Greeter :=
  (.string s!"{greeter.word} {name}", { greeter with names := name :: greeter.names })

/-- The names greeted so far, oldest first. -/
def greeted (greeter : Greeter) : List String := greeter.names.reverse

end Greeter
end RuleHost
