import RuleHost.CommandLine.Finish

/-! The program: it loads its configuration, carries out what its command line asks for, and prints the
result. The delays of the script take no time. -/

namespace RuleHost.CommandLine

/-- Why the system could not read a file. -/
def fileError : IO.Error → Files.FileError
  | .noFileOrDirectory _ _ _ => .notFound
  | .permissionDenied _ _ _ => .permissionDenied
  | .inappropriateType _ code _ => if code = 20 then .notFolder else .isFolder
  | error => .other (toString error)

def readFile (path : String) : IO (Except Files.FileError ByteArray) := do
  try return .ok (← IO.FS.readBinFile path)
  catch error => return .error (fileError error)

/-- Loads the configuration from the source that is chosen. -/
def loadConfig (asked named : Option String) : IO (Except ConfigError Config) := do
  let content ← readFile Config.fileName
  let present := match content with
    | .error .notFound => false
    | _ => true
  match Config.choose asked named present with
  | some path => return Config.ofFile path (← readFile path)
  | none => return .ok {}

def print (finish : Finish) : IO UInt32 := do
  (← IO.getStdout).putStr finish.output
  (← IO.getStderr).putStr finish.diagnostics
  return UInt32.ofNat finish.code

end RuleHost.CommandLine

open RuleHost in
def main (words : List String) : IO UInt32 := do
  match CommandLine.read words with
  | .misuse => CommandLine.print { code := 2 }
  | .programVersion => CommandLine.print CommandLine.aboutProgram
  | .invoke invocation =>
    let named ← IO.getEnv Config.variableName
    CommandLine.print (invocation.finish (← CommandLine.loadConfig invocation.config named))
