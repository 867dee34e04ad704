import RuleHost.Host.Act

/-! What a running script is given: a scheduler, the globals it can call, the constants of its
collaborator module and the output slot that the host reads when the run is over. -/

namespace RuleHost

structure Context where
  scheduler : Loop.SchedulerId
  globals : Registry
  imports : Table String Value := .empty
  output : SlotId

namespace Context

/-- Names with their values; of several values for one name the last counts. -/
def importsOf (entries : List (String × Value)) : Table String Value :=
  entries.foldl (fun imports entry => imports.insert entry.1 entry.2) .empty

/-- The value of an import, undefined if the module does not export it. -/
def imported (context : Context) (name : String) : Value :=
  (context.imports.find? name).getD .undefined

def debug (context : Context) (world : Loop.World) (host : Host) : String :=
  let imports := context.imports.entries.map fun entry =>
    Text.quoted entry.1 ++ ": " ++ entry.2.debug
  "ScriptContext \x7b scheduler: " ++ (world.scheduler context.scheduler).debug ++
    ", globals: " ++ toString context.globals.size ++
    ", imports: ModuleImports \x7b values: \x7b" ++ ", ".intercalate imports ++ "\x7d \x7d" ++
    ", output: " ++ host.debugSlot context.output ++ ", .. \x7d"

end Context
end RuleHost
