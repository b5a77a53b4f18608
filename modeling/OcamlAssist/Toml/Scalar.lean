-- Simple TOML values: strings of four kinds, numbers, dates and times. Only
-- strings, integers and booleans keep their value; of the others it is known
-- that they are well formed.
import OcamlAssist.Text.Reader
import OcamlAssist.Json.Reader
import OcamlAssist.Toml.Table

namespace OcamlAssist.Toml

open OcamlAssist.Text

/-! ## Blanks -/

def isSpace (c : Char) : Bool := c == ' ' || c == '\t'

def spaces : Reader Unit := do let _ ← Reader.run isSpace

def newline : Reader Unit := Reader.word ['\n'] <|> Reader.word ['\r', '\n']

def isCommentChar (c : Char) : Bool := c == '\t' || (' ' ≤ c && c != '\x7f')

def comment : Reader Unit := do
  let _ ← Reader.one (· == '#')
  let _ ← Reader.run isCommentChar

/-! ## Strings -/

def isQuotedChar (c : Char) : Bool := isCommentChar c && c != '"' && c != '\\'

def isLiteralChar (c : Char) : Bool := isCommentChar c && c != '\''

def codePoint (digits : Nat) : Reader Char := do
  let code := Json.hexNumber (← Reader.exactly (fun c => (Json.hexDigit? c).isSome) digits)
  if code.isValidChar then return Char.ofNat code else failure

def escape : Reader Char := do
  let _ ← Reader.one (· == '\\')
  match ← Reader.one (fun _ => true) with
  | 'b' => return '\x08'
  | 'f' => return '\x0c'
  | 'n' => return '\n'
  | 'r' => return '\r'
  | 't' => return '\t'
  | '"' => return '"'
  | '\\' => return '\\'
  | 'u' => codePoint 4
  | 'U' => codePoint 8
  | _ => failure

def quoted : Reader (List Char) := do
  let _ ← Reader.one (· == '"')
  let found ← Reader.repeated (Reader.one isQuotedChar <|> escape)
  let _ ← Reader.one (· == '"')
  return found

def literal : Reader (List Char) := do
  let _ ← Reader.one (· == '\'')
  let found ← Reader.run isLiteralChar
  let _ ← Reader.one (· == '\'')
  return found

def innerNewline : Reader (List Char) := do newline; return ['\n']

/-- A backslash at the end of a line, with the blank lines and the indentation after it. -/
def continuation : Reader (List Char) := do
  let _ ← Reader.one (· == '\\')
  spaces
  newline
  let _ ← Reader.repeated (newline <|> (do let _ ← Reader.someRun isSpace))
  return []

/-- One or two delimiters that stand for themselves, because no third one follows. -/
def fewDelimiters (delimiter : Char) : Reader (List Char) := do
  let found ← Reader.someRun (· == delimiter)
  if found.length ≤ 2 then return found else failure

/-- The delimiters that end a string of several lines: three, and up to two more that still
belong to the string. -/
def lastDelimiters (delimiter : Char) : Reader (List Char) := do
  let found ← Reader.someRun (· == delimiter)
  if 3 ≤ found.length ∧ found.length ≤ 5 then return found.drop 3 else failure

/-- A string of several lines. A line feed right behind the opening delimiters is left out. -/
def multiline (delimiter : Char) (part : Reader (List Char)) : Reader (List Char) := do
  Reader.word [delimiter, delimiter, delimiter]
  let _ ← Reader.optional newline
  let parts ← Reader.repeated (part <|> fewDelimiters delimiter)
  return parts.flatten ++ (← lastDelimiters delimiter)

def string : Reader (List Char) :=
  multiline '"'
    (Reader.someRun isQuotedChar <|> continuation <|> (do return [← escape]) <|> innerNewline) <|>
  quoted <|>
  multiline '\'' (Reader.someRun isLiteralChar <|> innerNewline) <|>
  literal

/-! ## Numbers -/

/-- Digits, with single underscores between them. -/
def digitsOf (isDigit : Char → Bool) : Reader (List Char) := do
  let first ← Reader.one isDigit
  let rest ← Reader.repeated (do
    let _ ← Reader.optional (Reader.one (· == '_'))
    Reader.one isDigit)
  return first :: rest

def isNegative : Reader Bool := do
  return (← Reader.optional (Reader.one fun c => c == '+' || c == '-')) == some '-'

def wholePart : Reader (List Char) :=
  (do
    let found ← digitsOf Char.isDigit
    if found.head? == some '0' then failure else return found) <|>
  (do return [← Reader.one (· == '0')])

def numberOf (base : Nat) (digits : List Char) : Nat :=
  digits.foldl (fun n c => n * base + (Json.hexDigit? c).getD 0) 0

def integerOf (value : Int) : Reader Node :=
  if -9223372036854775808 ≤ value ∧ value < 9223372036854775808 then return .integer value else failure

def basedInteger (mark : Char) (base : Nat) (isDigit : Char → Bool) : Reader Node := do
  Reader.word ['0', mark]
  integerOf (numberOf base (← digitsOf isDigit))

def decimalInteger : Reader Node := do
  let negative ← isNegative
  let value := numberOf 10 (← wholePart)
  integerOf (if negative then -value else value)

/-- Whether a decimal number is too large for a double-precision float: it lies at or past the
middle between the largest finite one and the next that there would be. -/
def isTooLarge (digits : List Char) (exponent : Int) : Bool :=
  let mantissa := numberOf 10 digits
  let size := (digits.dropWhile (· == '0')).length + exponent
  if mantissa = 0 ∨ size < 300 then false
  else if 320 < size then true
  else
    let limit := Nat.pow 2 1024 - Nat.pow 2 970
    if 0 ≤ exponent then limit ≤ mantissa * Nat.pow 10 exponent.toNat
    else limit * Nat.pow 10 (-exponent).toNat ≤ mantissa

def exponent : Reader Int := do
  let _ ← Reader.one fun c => c == 'e' || c == 'E'
  let negative ← isNegative
  let value := numberOf 10 (← digitsOf Char.isDigit)
  return if negative then -value else value

/-- A float: a number with a fraction, an exponent or both. One that is too large below zero
passes for the lowest float. -/
def floatNumber : Reader Node := do
  let negative ← isNegative
  let digits ← wholePart
  let fraction ← Reader.optional (do
    let _ ← Reader.one (· == '.')
    digitsOf Char.isDigit)
  let power ← Reader.optional exponent
  if fraction.isNone && power.isNone then failure
  let fraction := fraction.getD []
  if !negative && isTooLarge (digits ++ fraction) (power.getD 0 - fraction.length) then failure
  return .float

def specialFloat : Reader Node := do
  let _ ← isNegative
  Reader.word ['i', 'n', 'f'] <|> Reader.word ['n', 'a', 'n']
  return .float

/-! ## Dates and times -/

def fixedNumber (digits low high : Nat) : Reader Nat := do
  let value := numberOf 10 (← Reader.exactly Char.isDigit digits)
  if low ≤ value ∧ value ≤ high then return value else failure

def daysIn (year month : Nat) : Nat :=
  if month = 2 then
    if year % 4 = 0 ∧ (year % 100 ≠ 0 ∨ year % 400 = 0) then 29 else 28
  else if month = 4 ∨ month = 6 ∨ month = 9 ∨ month = 11 then 30
  else 31

def date : Reader Unit := do
  let year ← fixedNumber 4 0 9999
  Reader.word ['-']
  let month ← fixedNumber 2 1 12
  Reader.word ['-']
  let _ ← fixedNumber 2 1 (daysIn year month)

/-- A time of day. A minute may have a leap second. -/
def time : Reader Unit := do
  let _ ← fixedNumber 2 0 23
  Reader.word [':']
  let _ ← fixedNumber 2 0 59
  Reader.word [':']
  let _ ← fixedNumber 2 0 60
  let _ ← Reader.optional (do
    Reader.word ['.']
    Reader.someRun Char.isDigit)

def offset : Reader Unit :=
  (do let _ ← Reader.one fun c => c == 'Z' || c == 'z') <|> (do
    let _ ← Reader.one fun c => c == '+' || c == '-'
    let _ ← fixedNumber 2 0 23
    Reader.word [':']
    let _ ← fixedNumber 2 0 59)

def dateTime : Reader Node := do
  (do
    date
    let _ ← Reader.optional (do
      let _ ← Reader.one fun c => c == 'T' || c == 't' || c == ' '
      time
      let _ ← Reader.optional offset)) <|> time
  return .dateTime

/-! ## All of them -/

def boolean : Reader Node :=
  (do Reader.word ['t', 'r', 'u', 'e']; return .boolean true) <|>
  (do Reader.word ['f', 'a', 'l', 's', 'e']; return .boolean false)

def scalar : Reader Node :=
  (do return .text (String.ofList (← string))) <|> dateTime <|> floatNumber <|> specialFloat <|>
  basedInteger 'x' 16 (fun c => (Json.hexDigit? c).isSome) <|>
  basedInteger 'o' 8 (fun c => '0' ≤ c && c ≤ '7') <|>
  basedInteger 'b' 2 (fun c => c == '0' || c == '1') <|>
  decimalInteger <|> boolean

end OcamlAssist.Toml
