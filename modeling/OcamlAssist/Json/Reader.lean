-- JSON text, as far as settings need it: strings are read, and values that
-- nobody asks for are passed over. Passing over checks the shape of a value
-- but not what its escapes and numbers stand for.
import OcamlAssist.Text.Reader

namespace OcamlAssist.Json

open OcamlAssist.Text

/-! ## Strings -/

def gap : Reader Unit := do
  let _ ← Reader.run fun c => c == ' ' || c == '\n' || c == '\t' || c == '\r'

def mark (c : Char) : Reader Unit := do
  gap
  let _ ← Reader.one (· == c)

def hexDigit? (c : Char) : Option Nat :=
  if '0' ≤ c ∧ c ≤ '9' then some (c.toNat - '0'.toNat)
  else if 'a' ≤ c ∧ c ≤ 'f' then some (c.toNat - 'a'.toNat + 10)
  else if 'A' ≤ c ∧ c ≤ 'F' then some (c.toNat - 'A'.toNat + 10)
  else none

def hexNumber (digits : List Char) : Nat :=
  digits.foldl (fun n c => n * 16 + (hexDigit? c).getD 0) 0

def codeUnit : Reader Nat := hexNumber <$> Reader.exactly (fun c => (hexDigit? c).isSome) 4

/-- The character behind `\u`: one unit, or two for a character past the first 65536. -/
def unicodeEscape : Reader Char := do
  let first ← codeUnit
  if 0xD800 ≤ first ∧ first < 0xDC00 then
    Reader.word ['\\', 'u']
    let second ← codeUnit
    if 0xDC00 ≤ second ∧ second < 0xE000 then
      return Char.ofNat (0x10000 + (first - 0xD800) * 0x400 + (second - 0xDC00))
    else failure
  else if 0xDC00 ≤ first ∧ first < 0xE000 then failure
  else return Char.ofNat first

def shortEscape? : Char → Option Char
  | '"' => some '"'
  | '\\' => some '\\'
  | '/' => some '/'
  | 'b' => some '\x08'
  | 'f' => some '\x0c'
  | 'n' => some '\n'
  | 'r' => some '\r'
  | 't' => some '\t'
  | _ => none

/-- A character that stands in a string for itself. -/
def isPlain (c : Char) : Bool := c != '"' && c != '\\' && ' ' ≤ c

def escape (unicode : Reader Char) : Reader Char := do
  let _ ← Reader.one (· == '\\')
  let c ← Reader.one fun _ => true
  match shortEscape? c with
  | some found => return found
  | none => if c == 'u' then unicode else failure

/-- A string, with a reader for what stands behind `\u`. -/
def textWith (unicode : Reader Char) : Reader (List Char) := do
  let _ ← Reader.one (· == '"')
  let found ← Reader.repeated (Reader.one isPlain <|> escape unicode)
  let _ ← Reader.one (· == '"')
  return found

def text : Reader (List Char) := textWith unicodeEscape

/-! ## Values that are passed over -/

def digits : Reader Unit := do let _ ← Reader.someRun Char.isDigit

/-- A number. Its digits start with no idle zero. -/
def number : Reader Unit := do
  let _ ← Reader.optional (Reader.one (· == '-'))
  (do let _ ← Reader.one (· == '0')) <|> (do
    let _ ← Reader.one fun c => '1' ≤ c && c ≤ '9'
    let _ ← Reader.run Char.isDigit)
  let _ ← Reader.optional (do let _ ← Reader.one (· == '.'); digits)
  let _ ← Reader.optional (do
    let _ ← Reader.one fun c => c == 'e' || c == 'E'
    let _ ← Reader.optional (Reader.one fun c => c == '+' || c == '-')
    digits)

def skippedText : Reader Unit := do
  let _ ← textWith (Char.ofNat <$> codeUnit)

def enclosed (opening closing : Char) (part : Reader Unit) : Reader Unit := do
  Reader.word [opening]
  mark closing <|> (do
    let _ ← Reader.separated part (mark ',')
    mark closing)

/-- A value with no more than `depth` brackets around any part of it. -/
def skipped : (depth : Nat) → Reader Unit
  | 0 => failure
  | depth + 1 => do
    gap
    let found ← Reader.next?
    match found with
    | some '"' => skippedText
    | some '[' => enclosed '[' ']' (skipped depth)
    | some '{' => enclosed '{' '}' (do gap; skippedText; mark ':'; skipped depth)
    | some 'n' => Reader.word ['n', 'u', 'l', 'l']
    | some 't' => Reader.word ['t', 'r', 'u', 'e']
    | some 'f' => Reader.word ['f', 'a', 'l', 's', 'e']
    | _ => number

/-- Any value. Its brackets are fewer than the characters that are left. -/
def anyValue : Reader Unit := do skipped ((← get).length + 1)

end OcamlAssist.Json
