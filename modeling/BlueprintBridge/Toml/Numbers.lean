import BlueprintBridge.Text.Blank
import BlueprintBridge.Toml.Scan

/-!
Numbers, dates and times. They are checked and not kept: no setting is one.

An integer has to fit a signed word of 64 bits. A decimal fraction has to stay below the largest
double, rounded; a negative one may be as small as it likes.
-/

namespace BlueprintBridge.Toml

set_option autoImplicit false

def isDigitOf (base : Nat) (c : Char) : Bool := (Text.digitValue? c).any (· < base)

/-- The digits to a base, single underscores between them left out. -/
def digitsOf (base : Nat) : Scan (List Char) := do
  let digit := Scan.one (isDigitOf base)
  let first ← digit
  let more ← Scan.many (Scan.attempt (Scan.char '_') *> digit)
  return first :: more

def valueOf (base : Nat) (digits : List Char) : Nat := (Text.digits? base digits).getD 0

/-- A sign; tells whether it is a minus. -/
def sign : Scan Bool := do
  match ← Scan.attempt (Scan.one fun c => c = '+' || c = '-') with
  | some c => return c = '-'
  | none => return false

/-- A sign and digits without a zero in front; tells whether there is a minus. -/
def signedDigits : Scan (Bool × List Char) := do
  let negative ← sign
  let digits ← digitsOf 10
  Scan.require (digits.length = 1 || digits.head? ≠ some '0')
  return (negative, digits)

def markedInteger (mark : String) (base : Nat) : Scan Unit := do
  Scan.word mark
  let digits ← digitsOf base
  Scan.require (valueOf base digits < Nat.pow 2 63)

def integer : Scan Unit :=
  markedInteger "0x" 16 <|> markedInteger "0o" 8 <|> markedInteger "0b" 2 <|> do
    let (negative, digits) ← signedDigits
    let n := valueOf 10 digits
    Scan.require (if negative then n ≤ Nat.pow 2 63 else n < Nat.pow 2 63)

/-- Whether `digits` times ten to the power `exponent` rounds to a double: it lies below the
middle between the largest double and the power of two above it. -/
def fitsDouble (digits : List Char) (exponent : Int) : Bool :=
  let n := valueOf 10 digits
  let bound := Nat.pow 2 1024 - Nat.pow 2 970
  if n = 0 then true
  else if exponent + digits.length < 300 then true
  else if 0 ≤ exponent then
    if 400 < exponent then false else n * Nat.pow 10 exponent.toNat < bound
  else if exponent + (toString n).length > 400 then false
  else n < bound * Nat.pow 10 (-exponent).toNat

def exponentPart : Scan Int := do
  let _ ← Scan.one fun c => c = 'e' || c = 'E'
  let negative ← sign
  let n := valueOf 10 (← digitsOf 10)
  return if negative then -n else n

def fraction : Scan Unit := do
  let (negative, whole) ← signedDigits
  let part ← Scan.attempt (Scan.char '.' *> digitsOf 10)
  let exponent ← Scan.attempt exponentPart
  Scan.require (part.isSome || exponent.isSome)
  let decimals := part.getD []
  Scan.require (negative ||
    fitsDouble (whole ++ decimals) (exponent.getD 0 - decimals.length))

def specialNumber : Scan Unit := do
  let _ ← sign
  Scan.word "inf" <|> Scan.word "nan"

/-! ## Dates and times -/

def fixedDigits (count low high : Nat) : Scan Nat := do
  let digits ← (List.replicate count ()).mapM fun _ => Scan.one (isDigitOf 10)
  let n := valueOf 10 digits
  Scan.require (low ≤ n && n ≤ high)
  return n

def daysIn (year month : Nat) : Nat :=
  if month = 2 then
    if year % 4 = 0 && (year % 100 ≠ 0 || year % 400 = 0) then 29 else 28
  else if month = 4 || month = 6 || month = 9 || month = 11 then 30
  else 31

def date : Scan Unit := do
  let year ← fixedDigits 4 0 9999
  Scan.char '-'
  let month ← fixedDigits 2 1 12
  Scan.char '-'
  let day ← fixedDigits 2 1 31
  Scan.require (day ≤ daysIn year month)

/-- A time of day; a minute may have a leap second. -/
def time : Scan Unit := do
  let _ ← fixedDigits 2 0 23
  Scan.char ':'
  let _ ← fixedDigits 2 0 59
  Scan.char ':'
  let _ ← fixedDigits 2 0 60
  let _ ← Scan.attempt do
    Scan.char '.'
    let _ ← Scan.one (isDigitOf 10)
    Scan.takeWhile (isDigitOf 10)

def timeOffset : Scan Unit :=
  (do let _ ← Scan.one fun c => c = 'Z' || c = 'z') <|> do
    let _ ← Scan.one fun c => c = '+' || c = '-'
    let _ ← fixedDigits 2 0 23
    Scan.char ':'
    let _ ← fixedDigits 2 0 59

def dateTime : Scan Unit :=
  (do
    date
    let _ ← Scan.attempt do
      let _ ← Scan.one fun c => c = 'T' || c = 't' || c = ' '
      time
      Scan.attempt timeOffset) <|> time

/-- A number, date or time. A date or a fraction may begin like an integer, so the longer forms
are tried first. -/
def number : Scan Unit := dateTime <|> fraction <|> specialNumber <|> integer

end BlueprintBridge.Toml
