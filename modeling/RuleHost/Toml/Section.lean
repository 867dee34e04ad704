import RuleHost.Toml.Text.Written

/-! Writing documents of one kind: sections that each have a header and hold strings and numbers. -/

namespace RuleHost.Toml

inductive Scalar where
  | string (text : String)
  | natural (number : Nat)

def Scalar.write : Scalar → String
  | .string text => Text.write text
  | .natural number => toString number

/-- A section; its name and its keys need no quotes. -/
structure Section where
  name : String
  entries : List (String × Scalar)

def Section.write (block : Section) : String :=
  "[" ++ block.name ++ "]\n" ++
    String.join (block.entries.map fun (key, scalar) => key ++ " = " ++ scalar.write ++ "\n")

def writeSections (sections : List Section) : String := "\n".intercalate (sections.map Section.write)

end RuleHost.Toml
