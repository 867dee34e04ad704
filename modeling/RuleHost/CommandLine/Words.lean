import RuleHost.CommandLine.Invocation

/-! Reading a command line. Flags stand before or after the command, in a long or a short form; the
value of a flag is the next word or follows an equals sign. Words are read from left to right, and the
first that has no place decides, unless the version was asked for before. -/

namespace RuleHost.CommandLine

inductive Flag where
  | verbose | config | delay | constant | console | programVersion
deriving DecidableEq

namespace Flag

def long : Flag → String
  | .verbose => "verbose"
  | .config => "config"
  | .delay => "delay-ms"
  | .constant => "a-string"
  | .console => "console"
  | .programVersion => "version"

def short? : Flag → Option Char
  | .verbose => some 'v'
  | .config => some 'c'
  | .programVersion => some 'V'
  | _ => none

def takesValue : Flag → Bool
  | .verbose => false
  | .programVersion => false
  | _ => true

end Flag

/-- Where a word stands: before the command, or behind it. -/
inductive Level where
  | program | run | functions | version
deriving DecidableEq

namespace Level

def flags : Level → List Flag
  | .program => [.verbose, .config, .programVersion]
  | .run => [.verbose, .config, .delay, .constant, .console]
  | _ => [.verbose, .config]

/-- The level behind the command of a name. -/
def ofCommand? : String → Option Level
  | "run" => some .run
  | "functions" => some .functions
  | "version" => some .version
  | _ => none

end Level

structure Given where
  verbose : Bool := false
  config : Option String := none
  options : RunOptions := {}

/-- A whole number of 64 bits in decimal digits, with or without a plus sign. -/
def delay? (text : String) : Option UInt64 :=
  let digits := match text.toList with
    | '+' :: digits => digits
    | digits => digits
  if digits.isEmpty || !digits.all (fun c => '0' ≤ c && c ≤ '9') then none
  else
    let n := digits.foldl (fun n c => n * 10 + (c.toNat - '0'.toNat)) 0
    if n < UInt64.size then some (UInt64.ofNat n) else none

def sink? : String → Option Sink
  | "stdout" => some .kept
  | "tracing" => some .logged
  | _ => none

def fill {α : Type} (place value : Option α) : Option (Option α) :=
  match place, value with
  | none, some value => some (some value)
  | _, _ => none

/-- Takes note of a flag with its value, which is empty for a flag that takes none. A flag may be given
once, and its value has to be one that the flag can take. -/
def Given.set (given : Given) (flag : Flag) (value : String) : Option Given :=
  match flag with
  | .verbose => if given.verbose then none else some { given with verbose := true }
  | .config => do
    let config ← fill given.config (if value == "" then none else some value)
    return { given with config }
  | .delay => do
    let delay ← fill given.options.delay (delay? value)
    return { given with options := { given.options with delay } }
  | .constant => do
    let constant ← fill given.options.constant (some value)
    return { given with options := { given.options with constant } }
  | .console => do
    let sink ← fill given.options.sink (sink? value)
    return { given with options := { given.options with sink } }
  | .programVersion => none

/-- Where the reading of a word leads. -/
inductive Step where
  /-- On to the next word, which is the value of a flag if one is waiting. -/
  | go (given : Given) (waiting : Option Flag)
  | behind (level : Level)
  /-- To the end of all flags. -/
  | words
  | programVersion
  | misuse

def Step.orMisuse : Option Given → Step
  | some given => .go given none
  | none => .misuse

/-- Reads a flag in its long form, with the value that stands behind an equals sign. -/
def readLong (level : Level) (given : Given) (name : String) (value : Option String) : Step :=
  match level.flags.find? fun flag => flag.long == name with
  | none => .misuse
  | some flag =>
    if flag.takesValue then
      match value with
      | some value => .orMisuse (given.set flag value)
      | none => .go given (some flag)
    else if value.isSome then .misuse
    else if flag == .programVersion then .programVersion
    else .orMisuse (given.set flag "")

/-- Reads flags in their short form. What follows a flag that takes a value is its value, with or
without an equals sign before it. -/
def readShort (level : Level) (given : Given) : List Char → Step
  | [] => .go given none
  | c :: rest =>
    match level.flags.find? fun flag => flag.short? == some c with
    | none => .misuse
    | some flag =>
      if flag.takesValue then
        match rest with
        | [] => .go given (some flag)
        | '=' :: value => .orMisuse (given.set flag (String.ofList value))
        | value => .orMisuse (given.set flag (String.ofList value))
      else if flag == .programVersion then .programVersion
      else
        match given.set flag "" with
        | some given => readShort level given rest
        | none => .misuse

/-- Splits the long form of a flag at its first equals sign. -/
def splitLong (text : List Char) : String × Option String :=
  let name := text.takeWhile (· != '=')
  (String.ofList name,
    match text.drop name.length with
    | [] => none
    | _ :: value => some (String.ofList value))

/-- Reads a word for which no flag is waiting. -/
def readWord (level : Level) (given : Given) (word : String) : Step :=
  match word.toList with
  | ['-', '-'] => .words
  | '-' :: '-' :: text =>
    let (name, value) := splitLong text
    readLong level given name value
  | '-' :: c :: rest => readShort level given (c :: rest)
  | _ =>
    match level, Level.ofCommand? word with
    | .program, some command => .behind command
    | _, _ => .misuse

/-- Whether a word is a flag and not the value of one. A single dash is a value. -/
def isFlag (word : String) : Bool :=
  match word.toList with
  | '-' :: _ :: _ => true
  | _ => false

/-- The request of a command line that ends at a level. What is given behind the command counts more
than what is given before it. -/
def request (level : Level) (outer given : Given) : Request :=
  let invoke := fun command =>
    Request.invoke ⟨outer.verbose || given.verbose, given.config.or outer.config, command⟩
  match level with
  | .program => .misuse
  | .run => invoke (.run given.options)
  | .functions => invoke .functions
  | .version => invoke .version

def readWords (level : Level) (outer given : Given) : (waiting : Option Flag) → List String → Request
  | some _, [] => .misuse
  | none, [] => request level outer given
  | some flag, word :: rest =>
    if isFlag word then .misuse
    else
      match given.set flag word with
      | some given => readWords level outer given none rest
      | none => .misuse
  | none, word :: rest =>
    match readWord level given word with
    | .go given waiting => readWords level outer given waiting rest
    | .behind command => readWords command given {} none rest
    | .words => if rest.isEmpty then request level outer given else .misuse
    | .programVersion => .programVersion
    | .misuse => .misuse

def read (words : List String) : Request := readWords .program {} {} none words

end RuleHost.CommandLine
