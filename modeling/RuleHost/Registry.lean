import RuleHost.Global
import RuleHost.Loop.Program

/-! The registry of host functions, in the order in which their names were first installed. -/

namespace RuleHost

/-- What a host function does: it is one of the globals, or a function defined in the loop. -/
inductive HostBody where
  | global (global : Global)
  | defined (function : Loop.FunctionId)

structure HostFunction where
  name : String
  /-- The least number of arguments. -/
  arity : Nat
  body : HostBody
  /-- A global that is called has the arguments that it needs. -/
  enough : ∀ global, body = .global global → global.arity ≤ arity := by simp

def HostFunction.ofGlobal (global : Global) : HostFunction where
  name := global.name
  arity := global.arity
  body := .global global

def HostFunction.debug (function : HostFunction) : String :=
  "HostFunction \x7b name: " ++ Text.quoted function.name ++
    ", arity: " ++ toString function.arity ++ ", .. \x7d"

structure Registry where
  table : Table String HostFunction := .empty

namespace Registry

def functions (registry : Registry) : List HostFunction := registry.table.values

def size (registry : Registry) : Nat := registry.table.size

def isEmpty (registry : Registry) : Bool := registry.table.isEmpty

def find? (registry : Registry) (name : String) : Option HostFunction := registry.table.find? name

def contains (registry : Registry) (name : String) : Bool := registry.table.contains name

/-- Installs a function, in the place of one of the same name if there is one. -/
def register (registry : Registry) (function : HostFunction) : Registry :=
  ⟨registry.table.insert function.name function⟩

/-- What the log is told when a function is installed. -/
def replaced (registry : Registry) (function : HostFunction) : List Notice :=
  if registry.contains function.name then [.functionReplaced function.name] else []

/-- Installs functions one after the other, with what the log is told. -/
def registerAll (registry : Registry) : List HostFunction → List Notice × Registry
  | [] => ([], registry)
  | function :: rest =>
    let (notices, installed) := (registry.register function).registerAll rest
    (registry.replaced function ++ notices, installed)

/-- Installs every global. -/
def install (registry : Registry) : List Notice × Registry :=
  let (notices, installed) := registry.registerAll (Global.all.map HostFunction.ofGlobal)
  (notices ++ [.functionsInstalled installed.size], installed)

/-- A registry of the globals alone. -/
def globals : Registry := ((Registry.mk .empty).install).2

def debug (registry : Registry) : String :=
  let entries := registry.table.entries.map fun entry =>
    Text.quoted entry.1 ++ ": " ++ entry.2.debug
  "HostFunctionRegistry \x7b functions: \x7b" ++ ", ".intercalate entries ++ "\x7d \x7d"

end Registry
end RuleHost
