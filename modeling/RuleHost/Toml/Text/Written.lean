import RuleHost.Toml.Character

/-! How a string is written. There are four forms; a string is written in the first of them that needs
no escapes, and with escapes if none does. -/

namespace RuleHost.Toml.Text

inductive Form where
  /-- In double quotes, on one line. -/
  | basic
  /-- In single quotes, on one line, without escapes. -/
  | literal
  /-- In three double quotes, on lines of their own if the text has several. -/
  | basicLines
  /-- In three single quotes, without escapes. -/
  | literalLines
deriving DecidableEq

/-- Whether a character stands three times in a row. -/
def hasTriple (quote : Char) : List Char → Bool
  | a :: b :: c :: rest =>
    (a == quote && b == quote && c == quote) || hasTriple quote (b :: c :: rest)
  | _ => false

/-- The form in which a text is written. A tab counts as needing no escape. -/
def Form.choose (text : List Char) : Form :=
  let controls := text.any fun c => isControl c && c != '\n'
  let lines := text.contains '\n'
  let slash := text.contains '\\'
  if !controls && !slash && !lines && !text.contains '"' then .basic
  else if !controls && !lines && !text.contains '\'' then .literal
  else if !controls && !slash && !hasTriple '"' text then .basicLines
  else if !controls && !hasTriple '\'' text then .literalLines
  else if lines then .basicLines
  else .basic

def hexDigit (n : Nat) : Char := (Nat.digitChar n).toUpper

def numbered (c : Char) : List Char :=
  let n := c.toNat
  ['\\', 'u', hexDigit (n / 4096 % 16), hexDigit (n / 256 % 16), hexDigit (n / 16 % 16),
    hexDigit (n % 16)]

/-- A character other than a quote, escaped if it has to be. A line feed stays as it is in the forms
that hold several lines. -/
def escapeChar (lines : Bool) (c : Char) : List Char :=
  match c with
  | '\x08' => ['\\', 'b']
  | '\t' => ['\\', 't']
  | '\n' => if lines then ['\n'] else ['\\', 'n']
  | '\x0c' => ['\\', 'f']
  | '\r' => ['\\', 'r']
  | '\\' => ['\\', '\\']
  | c => if isControl c then numbered c else [c]

/-- A text with its escapes. Of the double quotes that follow each other some may stay bare: none where
one of them would end the text, and two where three would. -/
def escape (lines : Bool) (bare : Nat) : List Char → List Char
  | [] => []
  | '"' :: rest =>
    match bare with
    | 0 => '\\' :: '"' :: escape lines (if lines then 2 else 0) rest
    | left + 1 => '"' :: escape lines left rest
  | c :: rest => escapeChar lines c ++ escape lines (if lines then 2 else 0) rest

/-- A line end that the reader drops again, so that a text of several lines begins on a new one. -/
def opening (text : List Char) : List Char := if text.contains '\n' then ['\n'] else []

def Form.write (text : List Char) : Form → List Char
  | .basic => '"' :: escape false 0 text ++ ['"']
  | .literal => '\'' :: text ++ ['\'']
  | .basicLines => ['"', '"', '"'] ++ opening text ++ escape true 2 text ++ ['"', '"', '"']
  | .literalLines => ['\'', '\'', '\''] ++ opening text ++ text ++ ['\'', '\'', '\'']

def write (text : String) : String :=
  String.ofList ((Form.choose text.toList).write text.toList)

end RuleHost.Toml.Text
