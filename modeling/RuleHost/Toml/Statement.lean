import RuleHost.Toml.Draft
import RuleHost.Toml.Literal
import RuleHost.Toml.Text.Read

/-! Reading the statements of a document: headers, and keys with their values. Keys are paths, written
with dots. The readers of nested values and of lists are bounded by the number of characters. -/

namespace RuleHost.Toml

/-- A path of keys: those that lead to a table, and one in it. -/
structure Path where
  parents : List String
  key : String

inductive Statement where
  /-- The keys that follow belong to this table. -/
  | header (path : Path)
  /-- The keys that follow belong to one more table of this name. -/
  | next (path : Path)
  | assign (path : Path) (value : Value)

def expect (c : Char) : List Char → Option (List Char)
  | [] => none
  | d :: rest => if d == c then some rest else none

/-- Reads one part of a path: a bare key or a string on one line. -/
def readKey : Reader String
  | '"' :: rest => Text.readLine '"' rest
  | '\'' :: rest => Text.readLine '\'' rest
  | text =>
    let key := text.takeWhile isBare
    if key.isEmpty then none else some (String.ofList key, text.drop key.length)

/-- Reads a path of keys, with blanks around its dots. -/
def readPath : (bound : Nat) → Reader Path
  | 0, _ => none
  | bound + 1, text => do
    let (key, rest) ← readKey (skipBlanks text)
    match skipBlanks rest with
    | '.' :: more =>
      let (path, rest) ← readPath bound more
      return (⟨key :: path.parents, path.key⟩, rest)
    | rest => return (⟨[], key⟩, rest)

/-- Drops a comment up to the end of its line. A tab is the only control character in one. -/
def skipComment (text : List Char) : Option (List Char) :=
  let rest := text.dropWhile (!isControl ·)
  if rest.isEmpty || (lineEnd? rest).isSome then some rest else none

def skipSpace : (bound : Nat) → List Char → Option (List Char)
  | 0, _ => none
  | bound + 1, text =>
    match skipBlanks text with
    | '#' :: comment => (skipComment comment).bind (skipSpace bound)
    | rest =>
      match lineEnd? rest with
      | some rest => skipSpace bound rest
      | none => some rest

/-- Adds the keys of a table in braces one after the other. -/
def assignAll (assignments : List (Path × Value)) : Option Entries :=
  assignments.foldlM (fun entries (path, value) => entries.assign value path.key path.parents) []

mutual
/-- Reads a value. Arrays and tables in braces are nested at most `depth` deep. -/
def readValue : (bound depth : Nat) → Reader Value
  | 0, _, _ => none
  | bound + 1, depth, text =>
    match text, depth with
    | '[' :: rest, depth + 1 => do
      let (items, rest) ← readItems bound depth rest
      return (.array items, rest)
    | '\x7b' :: rest, depth + 1 => do
      let (assignments, rest) ← readAssignments bound depth rest
      return (.table (doneEntries (← assignAll assignments)), rest)
    | '"' :: _, _ | '\'' :: _, _ => (Text.read? text).map fun (text, rest) => (.string text, rest)
    | _, _ => readLiteral text

/-- Reads the rest of an array. A comma may stand behind its last item. -/
def readItems : (bound depth : Nat) → Reader (List Value)
  | 0, _, _ => none
  | bound + 1, depth, text => do
    match ← skipSpace (text.length + 1) text with
    | ']' :: rest => return ([], rest)
    | rest =>
      let (item, rest) ← readValue bound depth rest
      match ← skipSpace (rest.length + 1) rest with
      | ',' :: rest =>
        let (items, rest) ← readItems bound depth rest
        return (item :: items, rest)
      | ']' :: rest => return ([item], rest)
      | _ => none

def readAssignments : (bound depth : Nat) → Reader (List (Path × Value))
  | 0, _, _ => none
  | bound + 1, depth, text => do
    match ← skipSpace (text.length + 1) text with
    | '\x7d' :: rest => return ([], rest)
    | rest =>
      let (path, rest) ← readPath (rest.length + 1) rest
      let (value, rest) ← readValue bound depth (skipBlanks (← expect '=' rest))
      match ← skipSpace (rest.length + 1) rest with
      | ',' :: rest =>
        let (assignments, rest) ← readAssignments bound depth rest
        return ((path, value) :: assignments, rest)
      | '\x7d' :: rest => return ([(path, value)], rest)
      | _ => none
end

/-- How deep arrays and tables in braces may be nested. -/
def deepest : Nat := 80

def readStatement : Reader Statement
  | '[' :: '[' :: text => do
    let (path, rest) ← readPath (text.length + 1) text
    return (.next path, ← expect ']' (← expect ']' rest))
  | '[' :: text => do
    let (path, rest) ← readPath (text.length + 1) text
    return (.header path, ← expect ']' rest)
  | text => do
    let (path, rest) ← readPath (text.length + 1) text
    let rest := skipBlanks (← expect '=' rest)
    let (value, rest) ← readValue (2 * rest.length + 1) deepest rest
    return (.assign path value, rest)

/-- Drops the rest of a line, which holds nothing but blanks and a comment. -/
def finishLine (text : List Char) : Option (List Char) :=
  match skipBlanks text with
  | [] => some []
  | '#' :: comment => skipComment comment
  | rest => if (lineEnd? rest).isSome then some rest else none

def readStatements : (bound : Nat) → List Char → Option (List Statement)
  | 0, _ => none
  | bound + 1, text => do
    match ← skipSpace (text.length + 1) text with
    | [] => return []
    | text =>
      let (statement, rest) ← readStatement text
      return statement :: (← readStatements bound (← finishLine rest))

end RuleHost.Toml
