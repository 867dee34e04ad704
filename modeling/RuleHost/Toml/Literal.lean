import RuleHost.Toml.Character
import RuleHost.Toml.Value

/-! The values that are written without quotes or brackets: truth values, numbers, dates and times. -/

namespace RuleHost.Toml

/-- Digits, with single underscores between some of them, and without them. -/
def grouped? (base : Nat) : List Char → Option (List Char)
  | [] => none
  | [c] => if isDigit base c then some [c] else none
  | c :: '_' :: rest => if isDigit base c then (grouped? base rest).map (c :: ·) else none
  | c :: rest => if isDigit base c then (grouped? base rest).map (c :: ·) else none

def natural? (base : Nat) (text : List Char) : Option Nat := (grouped? base text).map (ofDigits base)

/-- A decimal number without superfluous zeros in front. -/
def decimal? : List Char → Option Nat
  | ['0'] => some 0
  | '0' :: _ => none
  | text => natural? 10 text

def wholeNumber? : List Char → Option Int
  | '0' :: 'x' :: text => (natural? 16 text).map Int.ofNat
  | '0' :: 'o' :: text => (natural? 8 text).map Int.ofNat
  | '0' :: 'b' :: text => (natural? 2 text).map Int.ofNat
  | '+' :: text => (decimal? text).map Int.ofNat
  | '-' :: text => (decimal? text).map fun n => -Int.ofNat n
  | text => (decimal? text).map Int.ofNat

/-- A number without fraction. It has to fit into 128 bits, with or without a sign. -/
def integer? (text : List Char) : Option Int :=
  (wholeNumber? text).filter fun n => -Int.ofNat (Nat.pow 2 127) ≤ n && n < Int.ofNat (Nat.pow 2 128)

def withoutSign : List Char → List Char
  | '+' :: text => text
  | '-' :: text => text
  | text => text

/-- Splits a text at the first character of a kind, which goes with neither part. -/
def cutAt (isMark : Char → Bool) (text : List Char) : List Char × Option (List Char) :=
  match text.dropWhile (!isMark ·) with
  | [] => (text, none)
  | _ :: rest => (text.takeWhile (!isMark ·), some rest)

/-- Whether `digits · 10 ^ exponent` is nearer to a binary64 number than to `2 ^ 1024`. -/
def isRepresentable (digits : Nat) (exponent : Int) : Bool :=
  let size : Int := (Nat.toDigits 10 digits).length + exponent
  let limit := (Nat.pow 2 54 - 1) * Nat.pow 2 970
  if digits = 0 || size < 0 then true
  else if 400 < size then false
  else digits * Nat.pow 10 exponent.toNat < limit * Nat.pow 10 (-exponent).toNat

/-- Whether a text is a number with a fraction, an exponent or both, and not too large. -/
def isFloat (text : List Char) : Bool :=
  let unsigned := withoutSign text
  let (mantissa, exponent?) := cutAt (fun c => c == 'e' || c == 'E') unsigned
  let (whole, fraction?) := cutAt (· == '.') mantissa
  let shift? := match exponent? with
    | none => some 0
    | some exponent => (natural? 10 (withoutSign exponent)).map fun n =>
      if exponent.head? == some '-' then -Int.ofNat n else Int.ofNat n
  let digits? := match fraction? with
    | none => some []
    | some fraction => grouped? 10 fraction
  match decimal? whole, grouped? 10 whole, digits?, shift? with
  | some _, some front, some digits, some shift =>
    (exponent?.isSome || fraction?.isSome) &&
      isRepresentable (ofDigits 10 (front ++ digits)) (shift - digits.length)
  | _, _, _, _ => false

/-- The infinities and what is no number. -/
def isSpecial (text : List Char) : Bool :=
  withoutSign text == ['i', 'n', 'f'] || withoutSign text == ['n', 'a', 'n']

def two? (a b : Char) : Option Nat :=
  if isDigit 10 a && isDigit 10 b then some (ofDigits 10 [a, b]) else none

def daysOfMonth (year month : Nat) : Nat :=
  if month == 2 then
    if year % 4 == 0 && (year % 100 != 0 || year % 400 == 0) then 29 else 28
  else if month == 4 || month == 6 || month == 9 || month == 11 then 30
  else 31

/-- A time zone: none, `Z`, or hours and minutes. -/
def isZone : List Char → Bool
  | [] => true
  | [c] => c == 'Z' || c == 'z'
  | [sign, a, b, ':', c, d] =>
    (sign == '+' || sign == '-') && (two? a b).any (· < 24) && (two? c d).any (· < 60)
  | _ => false

/-- What is left of a time of day behind its minutes: seconds, with or without a fraction. -/
def seconds? : List Char → Option (List Char)
  | ':' :: a :: b :: '.' :: rest =>
    let digits := rest.takeWhile (isDigit 10)
    if (two? a b).any (· < 61) && !digits.isEmpty then some (rest.drop digits.length) else none
  | ':' :: a :: b :: rest => if (two? a b).any (· < 61) then some rest else none
  | ':' :: _ => none
  | rest => some rest

def time? : List Char → Option (List Char)
  | a :: b :: ':' :: c :: d :: rest =>
    if (two? a b).any (· < 24) && (two? c d).any (· < 60) then seconds? rest else none
  | _ => none

def date? : List Char → Option (List Char)
  | a :: b :: c :: d :: '-' :: e :: f :: '-' :: g :: h :: rest => do
    let year := (← two? a b) * 100 + (← two? c d)
    let month ← two? e f
    let day ← two? g h
    if 1 ≤ month && month ≤ 12 && 1 ≤ day && day ≤ daysOfMonth year month then some rest else none
  | _ => none

/-- Whether a text is a date, a time of day, or a date and a time of day with or without a zone. -/
def isDatetime (text : List Char) : Bool :=
  match date? text with
  | some [] => true
  | some (mark :: rest) =>
    (mark == 'T' || mark == 't' || mark == ' ') && (time? rest).any isZone
  | none => (time? text).any List.isEmpty

def literal? (text : List Char) : Option Value :=
  if text == ['t', 'r', 'u', 'e'] then some (.bool true)
  else if text == ['f', 'a', 'l', 's', 'e'] then some (.bool false)
  else match integer? text with
    | some n => some (.integer n)
    | none =>
      if isFloat text || isSpecial text then some (.float (String.ofList text))
      else if isDatetime text then some (.datetime (String.ofList text))
      else none

def isLiteral (c : Char) : Bool := isBare c || c == '+' || c == '.' || c == ':'

/-- Reads such a value. A date may have one space between it and its time. -/
def readLiteral : Reader Value := fun text =>
  let first := text.takeWhile isLiteral
  let rest := text.drop first.length
  let (whole, rest) := match date? first, rest with
    | some [], ' ' :: c :: more =>
      if isDigit 10 c then
        let second := (c :: more).takeWhile isLiteral
        (first ++ ' ' :: second, (c :: more).drop second.length)
      else (first, rest)
    | _, _ => (first, rest)
  (literal? whole).map fun value => (value, rest)

end RuleHost.Toml
