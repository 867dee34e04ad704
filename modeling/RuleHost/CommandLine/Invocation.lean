import RuleHost.Config
import RuleHost.Host.Memory

/-! What the program can be asked to do. -/

namespace RuleHost.CommandLine

/-- How a run differs from the configuration. -/
structure RunOptions where
  delay : Option UInt64 := none
  constant : Option String := none
  sink : Option Sink := none

inductive Command where
  | run (options : RunOptions)
  | functions
  | version

structure Invocation where
  verbose : Bool
  /-- The configuration file that is asked for. -/
  config : Option String
  command : Command

inductive Request where
  | invoke (invocation : Invocation)
  /-- The name and the version of the program, and nothing else. -/
  | programVersion
  /-- The command line cannot be understood. -/
  | misuse

def RunOptions.apply (options : RunOptions) (config : Config) : Config :=
  { config with
    delay := options.delay.getD config.delay
    constant := options.constant.getD config.constant }

end RuleHost.CommandLine
