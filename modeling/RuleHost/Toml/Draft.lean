import RuleHost.Toml.Value

/-! A document while it is being read. A table may be spread over several places of a document, and
where it began decides who may add to it: a draft keeps that beside every table. -/

namespace RuleHost.Toml

inductive Origin where
  /-- By a header that names it. -/
  | header
  /-- By a header that names a table inside it. -/
  | path
  /-- By a dotted key. -/
  | dotted
deriving DecidableEq

inductive Draft where
  /-- A value to which nothing can be added: all but the tables below. -/
  | value (value : Value)
  | table (origin : Origin) (entries : List (String × Draft))
  /-- The tables of one name that each have a header in double brackets, oldest first. -/
  | tables (before : List (List (String × Draft))) (last : List (String × Draft))

abbrev Entries := List (String × Draft)

namespace Entries

def find? (key : String) (entries : Entries) : Option Draft :=
  (List.find? (fun entry => entry.1 == key) entries).map Prod.snd

/-- Puts a draft in the place of the one that a key has. -/
def replace (key : String) (draft : Draft) (entries : Entries) : Entries :=
  entries.map fun entry => if entry.1 == key then (key, draft) else entry

def add (key : String) (draft : Draft) (entries : Entries) : Option Entries :=
  if (entries.find? key).isSome then none else some (entries ++ [(key, draft)])

/-- Changes the table at the end of a path of headers, which opens tables where there are none. Of
several tables of one name the last is meant. -/
def within (change : Entries → Option Entries) : List String → Entries → Option Entries
  | [], entries => change entries
  | key :: path, entries =>
    match entries.find? key with
    | none => (within change path []).bind fun inner => entries.add key (.table .path inner)
    | some (.value _) => none
    | some (.table origin inner) =>
      (within change path inner).map fun inner => entries.replace key (.table origin inner)
    | some (.tables before last) =>
      (within change path last).map fun last => entries.replace key (.tables before last)

/-- Adds a value under a dotted key. It may add only to tables that dotted keys have opened, and may
pass through those that exist only because a header names a table inside them. -/
def assign (value : Value) (key : String) : (path : List String) → Entries → Option Entries
  | [], entries => entries.add key (.value value)
  | parent :: path, entries =>
    match entries.find? parent with
    | none => (assign value key path []).bind fun inner => entries.add parent (.table .dotted inner)
    | some (.value _) => none
    | some (.table .header _) => none
    | some (.table origin inner) =>
      if origin == .path && path.isEmpty then none
      else (assign value key path inner).map fun inner => entries.replace parent (.table origin inner)
    | some (.tables before last) =>
      if path.isEmpty then none
      else (assign value key path last).map fun last => entries.replace parent (.tables before last)

/-- Opens a table under a key. A table that exists only because a header names one inside it can still
be opened, all others are complete. -/
def openTable (key : String) (entries : Entries) : Option Entries :=
  match entries.find? key with
  | none => entries.add key (.table .header [])
  | some (.table .path inner) => some (entries.replace key (.table .header inner))
  | some _ => none

def openNext (key : String) (entries : Entries) : Option Entries :=
  match entries.find? key with
  | none => entries.add key (.tables [] [])
  | some (.tables before last) => some (entries.replace key (.tables (before ++ [last]) []))
  | some _ => none

end Entries

mutual
def Draft.done : Draft → Value
  | .value value => value
  | .table _ entries => .table (doneEntries entries)
  | .tables before last => .array (doneTables before ++ [.table (doneEntries last)])

def doneEntries : List (String × Draft) → List (String × Value)
  | [] => []
  | (key, draft) :: rest => (key, draft.done) :: doneEntries rest

def doneTables : List (List (String × Draft)) → List Value
  | [] => []
  | entries :: rest => .table (doneEntries entries) :: doneTables rest
end

end RuleHost.Toml
