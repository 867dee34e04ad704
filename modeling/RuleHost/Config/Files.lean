import RuleHost.Config.Document
import RuleHost.Files.Tree
import RuleHost.Notice

/-! Where a configuration comes from: the file that is asked for, or else the file that an environment
variable names, or else a file of a fixed name if there is one, or else the defaults. A file that is
chosen and cannot be used is an error; no other takes its place. -/

namespace RuleHost

inductive ConfigError where
  | file (path : String) (cause : Files.FileError)
  /-- The file holds no configuration. -/
  | parse
  /-- The configuration has no written form. -/
  | write
deriving DecidableEq

def ConfigError.message : ConfigError → String
  | .file path cause => s!"IO error on {path}: {cause.message}"
  | .parse => "Config parse error"
  | .write => "Config serialize error"

namespace Config

def variableName : String := "OHX_SCRIPT_CONFIG"

def fileName : String := "ohx-script.toml"

def choose (asked named : Option String) (present : Bool) : Option String :=
  match asked, named with
  | some path, _ => some path
  | none, some path => some path
  | none, none => if present then some fileName else none

/-- The configuration in what was read from a file. -/
def ofFile (path : String) (content : Except Files.FileError ByteArray) : Except ConfigError Config :=
  match content with
  | .error cause => .error (.file path cause)
  | .ok bytes =>
    match String.fromUTF8? bytes with
    | none => .error (.file path .notText)
    | some text =>
      match parse? text with
      | none => .error .parse
      | some config => .ok config

def load (tree : Files.Tree) (path : String) : Except ConfigError Config := ofFile path (tree.read path)

/-- The file that is chosen among those in a tree. -/
def source (tree : Files.Tree) (asked named : Option String) : Option String :=
  choose asked named (tree.contains fileName)

/-- The configuration from whatever source is chosen. -/
def resolve (tree : Files.Tree) (asked named : Option String) : Except ConfigError Config :=
  match source tree asked named with
  | some path => load tree path
  | none => .ok {}

/-- What the log is told when a configuration is loaded from a source. -/
def noticesOf (source : Option String) : List Notice := (source.map Notice.configLoading).toList

/-- Saves a configuration, in a folder that is added if it is not there. What was added stays if the
rest fails. -/
def save (config : Config) (path : String) (tree : Files.Tree) :
    Except ConfigError Unit × Files.Tree :=
  let folder := Files.folderOf path
  match if folder == "" then .ok tree else tree.makeFolders folder with
  | .error cause => (.error (.file folder cause), tree)
  | .ok tree =>
    match config.write? with
    | none => (.error .write, tree)
    | some text =>
      match tree.write path text.toUTF8 with
      | .error cause => (.error (.file path cause), tree)
      | .ok tree => (.ok (), tree)

end Config
end RuleHost
