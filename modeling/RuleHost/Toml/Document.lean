import RuleHost.Toml.Statement

/-! Reading a whole document. -/

namespace RuleHost.Toml

structure Reading where
  entries : Entries := []
  /-- The path of the table to which the next keys belong. -/
  table : List String := []

def Path.keys (path : Path) : List String := path.parents ++ [path.key]

def Reading.follow (reading : Reading) : Statement → Option Reading
  | .header path => do
    let entries ← reading.entries.within (Entries.openTable path.key) path.parents
    return { entries, table := path.keys }
  | .next path => do
    let entries ← reading.entries.within (Entries.openNext path.key) path.parents
    return { entries, table := path.keys }
  | .assign path value => do
    let entries ← reading.entries.within (Entries.assign value path.key path.parents) reading.table
    return { reading with entries }

def ofStatements? (statements : List Statement) : Option (List (String × Value)) := do
  let reading ← statements.foldlM Reading.follow {}
  return doneEntries reading.entries

/-- Drops the mark that some writers put before a document. -/
def withoutMark : List Char → List Char
  | '\ufeff' :: text => text
  | text => text

def parse? (text : String) : Option (List (String × Value)) :=
  let text := withoutMark text.toList
  (readStatements (text.length + 1) text).bind ofStatements?

end RuleHost.Toml
