import RuleHost.Config
import RuleHost.Toml.Document
import RuleHost.Toml.Section

/-! Configurations as TOML documents of three sections. Every key may be missing, and then has its
default; keys that mean nothing are passed over. A section may also be an array, which lists the values
of its keys in order. -/

namespace RuleHost.Config

/-- The keys of a section with their values. Values of an array beyond the last key mean nothing, and a
date is read as a section without keys. -/
def section? (keys : List String) : Option Toml.Value → Option (List (String × Toml.Value))
  | none => some []
  | some (.table entries) => some entries
  | some (.array items) => some (keys.zip items)
  | some (.datetime _) => some []
  | some _ => none

/-- Reads the value of a key, if the section has it. -/
def read {α : Type} (decode? : Toml.Value → Option α) (otherwise : α) (key : String)
    (entries : List (String × Toml.Value)) : Option α :=
  match Toml.find? key entries with
  | none => some otherwise
  | some value => decode? value

def text? : Toml.Value → Option String
  | .string text => some text
  | _ => none

/-- A number of milliseconds has 64 bits. -/
def delay? : Toml.Value → Option UInt64
  | .integer n => if 0 ≤ n && n.toNat < UInt64.size then some (UInt64.ofNat n.toNat) else none
  | _ => none

def isEmpty : Toml.Value → Bool
  | .table entries => entries.isEmpty
  | .array items => items.isEmpty
  | _ => false

/-- A level is written as its name, or as a table with its name as the only key and nothing in it. -/
def level? : Toml.Value → Option LogLevel
  | .string name => LogLevel.ofName? name
  | .table [(name, content)] => if isEmpty content then LogLevel.ofName? name else none
  | _ => none

def scriptKeys : List String := ["a_string", "delay_ms", "initial_output"]
def logKeys : List String := ["level"]
def hostKeys : List String := ["greeting", "rule_type"]

/-- The configuration that a document holds, if each of its keys has a value of the right kind. -/
def ofTable? (document : List (String × Toml.Value)) : Option Config := do
  let script ← section? scriptKeys (Toml.find? "script" document)
  let log ← section? logKeys (Toml.find? "log" document)
  let host ← section? hostKeys (Toml.find? "host" document)
  let default : Config := {}
  return {
    constant := ← read text? default.constant "a_string" script
    delay := ← read delay? default.delay "delay_ms" script
    initialOutput := ← read (fun value => (text? value).map some) none "initial_output" script
    level := ← read level? default.level "level" log
    greeting := ← read text? default.greeting "greeting" host
    ruleType := ← read text? default.ruleType "rule_type" host }

def parse? (text : String) : Option Config := (Toml.parse? text).bind ofTable?

def sections (config : Config) : List Toml.Section :=
  [⟨"script",
      [("a_string", .string config.constant), ("delay_ms", .natural config.delay.toNat)] ++
        (config.initialOutput.map fun text => ("initial_output", Toml.Scalar.string text)).toList⟩,
    ⟨"log", [("level", .string config.level.name)]⟩,
    ⟨"host", [("greeting", .string config.greeting), ("rule_type", .string config.ruleType)]⟩]

/-- The written form. It has no room for a delay of `2 ^ 63` or more. -/
def write? (config : Config) : Option String :=
  if config.delay.toNat < 0x8000000000000000 then some (Toml.writeSections config.sections) else none

end RuleHost.Config
