import RuleHost.Toml.Character

/-! Reading a string in any of its four forms. A reader first cuts what stands between the quotes, and
then resolves the escapes in it. -/

namespace RuleHost.Toml.Text

def before (c : Char) : Option (List Char × List Char) → Option (List Char × List Char) :=
  Option.map fun (text, rest) => (c :: text, rest)

/-- Cuts up to a quote. Where escapes are allowed, the character after a backslash ends nothing. -/
def cut (quote : Char) (escapes : Bool) : Reader (List Char)
  | [] => none
  | '\\' :: c :: rest =>
    if escapes then before '\\' (before c (cut quote escapes rest))
    else before '\\' (cut quote escapes (c :: rest))
  | c :: rest => if c == quote then some ([], rest) else before c (cut quote escapes rest)

/-- The quotes right after three of them still belong to the text, up to two. -/
def close (quote : Char) (rest : List Char) : List Char × List Char :=
  let more := (rest.take 2).takeWhile (· == quote)
  (more, rest.drop more.length)

/-- Cuts up to three quotes in a row. -/
def cutLines (quote : Char) (escapes : Bool) : Reader (List Char)
  | [] => none
  | '\\' :: c :: rest =>
    if escapes then before '\\' (before c (cutLines quote escapes rest))
    else before '\\' (cutLines quote escapes (c :: rest))
  | c :: rest =>
    if c == quote && rest.take 2 == [quote, quote] then some (close quote (rest.drop 2))
    else before c (cutLines quote escapes rest)

def escaped? : Char → Option Char
  | 'b' => some '\x08'
  | 't' => some '\t'
  | 'n' => some '\n'
  | 'f' => some '\x0c'
  | 'r' => some '\r'
  | 'e' => some '\x1b'
  | '"' => some '"'
  | '\\' => some '\\'
  | _ => none

/-- The character with a number that is written in hexadecimal digits. Surrogates are none. -/
def numbered? (digits : List Char) : Option Char :=
  let n := ofDigits 16 digits
  if digits.all (isDigit 16) && (n < 0xd800 || (0xdfff < n && n < 0x110000)) then some (Char.ofNat n)
  else none

/-- Resolves the escapes of a text. A backslash at the end of a line takes the line end with it, and all
blanks and line ends after it. -/
def resolve (lines : Bool) : (skipping : Bool) → List Char → Option (List Char)
  | _, [] => some []
  | _, '\\' :: 'x' :: a :: b :: rest => do
    return (← numbered? [a, b]) :: (← resolve lines false rest)
  | _, '\\' :: 'u' :: a :: b :: c :: d :: rest => do
    return (← numbered? [a, b, c, d]) :: (← resolve lines false rest)
  | _, '\\' :: 'U' :: a :: b :: c :: d :: e :: f :: g :: h :: rest => do
    return (← numbered? [a, b, c, d, e, f, g, h]) :: (← resolve lines false rest)
  | _, '\\' :: c :: rest =>
    match escaped? c with
    | some meant => (resolve lines false rest).map (meant :: ·)
    | none => if lines && endsLine (c :: rest) then resolve lines true (c :: rest) else none
  | skipping, '\r' :: '\n' :: rest =>
    if !lines then none
    else if skipping then resolve lines true rest
    else (resolve lines false rest).map fun text => '\r' :: '\n' :: text
  | skipping, c :: rest =>
    if skipping && (isBlank c || c == '\n') then resolve lines true rest
    else if c == '\\' || (isControl c && !(lines && c == '\n')) then none
    else (resolve lines false rest).map (c :: ·)

/-- Whether a text that knows no escapes may stand as it is. -/
def isPlain (lines : Bool) : List Char → Bool
  | [] => true
  | '\r' :: '\n' :: rest => lines && isPlain lines rest
  | c :: rest => (!isControl c || (lines && c == '\n')) && isPlain lines rest

/-- The text that stands between the quotes, if it may. -/
def meaning? (quote : Char) (lines : Bool) (between : List Char) : Option (List Char) :=
  if quote == '"' then resolve lines false between
  else if isPlain lines between then some between
  else none

/-- Reads a string on one line, behind its first quote. -/
def readLine (quote : Char) : Reader String := fun text => do
  let (between, rest) ← cut quote (quote == '"') text
  return (String.ofList (← meaning? quote false between), rest)

/-- Reads a string of several lines, behind its first three quotes. A line end right behind them is
dropped. -/
def readLines (quote : Char) : Reader String := fun text => do
  let (between, rest) ← cutLines quote (quote == '"') ((lineEnd? text).getD text)
  return (String.ofList (← meaning? quote true between), rest)

/-- Reads a string in any form, if there is one. -/
def read? : Reader String
  | '"' :: '"' :: '"' :: rest => readLines '"' rest
  | '\'' :: '\'' :: '\'' :: rest => readLines '\'' rest
  | '"' :: rest => readLine '"' rest
  | '\'' :: rest => readLine '\'' rest
  | _ => none

end RuleHost.Toml.Text
