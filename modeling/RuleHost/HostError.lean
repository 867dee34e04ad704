import RuleHost.Value

/-! Why a call of a host function fails. -/

namespace RuleHost

inductive HostError where
  /-- No function of this name is installed. -/
  | undefinedFunction (name : String)
  /-- The call has fewer arguments than the function needs. -/
  | arity (name : String) (expected found : Nat)
  /-- The argument at an index is of the wrong kind. -/
  | typeMismatch (name : String) (index : Nat) (expected found : Kind)
  /-- The collaborator behind a service reported a failure. -/
  | collaborator (name message : String)
  /-- No thing is registered under this name. -/
  | unknownThing (thing : String)
deriving DecidableEq

def HostError.message : HostError → String
  | .undefinedFunction name => s!"{name} is not defined"
  | .arity name expected found => s!"{name} expects {expected} argument(s), got {found}"
  | .typeMismatch name index expected found =>
    s!"{name}: argument {index} must be {expected.name}, got {found.name}"
  | .collaborator name message => s!"{name} failed: {message}"
  | .unknownThing thing => s!"unknown thing '{thing}'"

end RuleHost
