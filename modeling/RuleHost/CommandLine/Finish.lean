import RuleHost.CommandLine.Words
import RuleHost.Config.Files
import RuleHost.HelloRun

/-! What the program prints, and how it ends. What was asked for goes to the output, the log and all
complaints go to the diagnostics. -/

namespace RuleHost.CommandLine

structure Finish where
  code : Nat := 0
  output : String := ""
  diagnostics : String := ""
deriving DecidableEq

def programName : String := "ohx-script"

def hostName : String := "OHX script host"

def hostVersion : String := "0.1.0"

def lines (texts : List String) : String := String.join (texts.map (· ++ "\n"))

/-- Control characters that a terminal might obey are written by their numbers. -/
def shield (c : Char) : String :=
  match c with
  | '\x07' => "\\x07"
  | '\x08' => "\\x08"
  | '\x0c' => "\\x0c"
  | '\x1b' => "\\x1b"
  | '\x7f' => "\\x7f"
  | c =>
    if 0x80 ≤ c.toNat && c.toNat ≤ 0x9f then
      "\\u\x7b" ++ String.ofList (Nat.toDigits 16 c.toNat) ++ "\x7d"
    else c.toString

/-- A notice as a line of the log, with its level in five columns. -/
def logLine (notice : Notice) : String :=
  let label := notice.level.label
  String.ofList (List.replicate (5 - label.length) ' ') ++ label ++ " " ++
    String.join (notice.message.toList.map shield)

/-- The log, as far as it is shown. -/
def log (least : LogLevel) (notices : List Notice) : String :=
  lines ((notices.filter fun notice => least.shows notice.level).map logLine)

/-- An error with what has caused it. -/
def complaint (error : String) (causes : List String) : String :=
  let listed := match causes with
    | [cause] => ["    " ++ cause]
    | _ => causes.mapIdx fun index cause => s!"    {index}: {cause}"
  "Error: " ++ error ++ "\n\nCaused by:\n" ++ lines listed

/-- Complains that no configuration could be loaded. -/
def withoutConfig (asked : Option String) (error : ConfigError) : Finish :=
  let attempt := match asked with
    | some path => s!"Failed to load config: {path}"
    | none => "Failed to load config"
  let causes := match error with
    | .file _ cause => [error.message, cause.message]
    | _ => [error.message]
  { code := 1, diagnostics := complaint attempt causes }

def logLevel (verbose : Bool) (config : Config) : LogLevel := if verbose then .debug else config.level

/-- What is told about the host on request, ahead of the log. -/
def about (verbose : Bool) : String :=
  if verbose then lines [s!"{hostName} version: {hostVersion}", "Host: linux"] else ""

def Command.finish (command : Command) (level : LogLevel) (config : Config) : Finish :=
  match command with
  | .version => { output := lines [s!"{hostName} {hostVersion}"] }
  | .functions =>
    let (notices, registry) := ({} : Registry).install
    { output := lines (registry.functions.map fun f => s!"{f.name} (arity {f.arity})")
      diagnostics := log level notices }
  | .run options =>
    let config := options.apply config
    match HelloRun.of? config config.services (options.sink.getD .kept) with
    | none => { code := 1 }
    | some played =>
      match played.result with
      | .ok report =>
        { output := lines (played.lines ++ [report.describe])
          diagnostics := log level played.notices }
      | .error failure =>
        { code := 1
          output := lines played.lines
          diagnostics := log level played.notices ++ complaint HelloRun.failed [failure.message] }

/-- Carries out an invocation with the configuration that was loaded for it. -/
def Invocation.finish (invocation : Invocation) (loaded : Except ConfigError Config) : Finish :=
  match loaded with
  | .error error => withoutConfig invocation.config error
  | .ok config =>
    let finish := invocation.command.finish (logLevel invocation.verbose config) config
    { finish with diagnostics := about invocation.verbose ++ finish.diagnostics }

def aboutProgram : Finish := { output := lines [s!"{programName} {hostVersion}"] }

/-- The way in which the program ends that is called with these words, in a folder with these files,
where the environment may name a configuration. -/
def finish (words : List String) (tree : Files.Tree) (named : Option String) : Finish :=
  match read words with
  | .misuse => { code := 2 }
  | .programVersion => aboutProgram
  | .invoke invocation => invocation.finish (Config.resolve tree invocation.config named)

end RuleHost.CommandLine
