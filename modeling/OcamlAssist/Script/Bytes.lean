-- The text that scripts are made of and work on. Each of its characters
-- stands for one byte, so that any bytes can be kept and matched as text.
import OcamlAssist.Text.Split
import OcamlAssist.Text.Utf8

namespace OcamlAssist.Script

open OcamlAssist.Text

/-- Text of a script; each character is a byte. -/
abbrev ByteText := List Char

/-! ## Bytes and strings -/

def ofBytes (bytes : Bytes) : ByteText := bytes.map fun byte => Char.ofNat byte.toNat

def toBytes (text : ByteText) : Bytes := text.map fun c => UInt8.ofNat c.toNat

def ofString (text : String) : ByteText := ofBytes (encode text.toList)

def shown (text : ByteText) : String := String.ofList (decodeLenient (toBytes text))

/-! ## Classes of characters -/

def isGap (c : Char) : Bool := c == ' ' || c == '\t'

def isWhite (c : Char) : Bool := isGap c || c == '\n' || c == '\x0b' || c == '\x0c' || c == '\r'

def isOctal (c : Char) : Bool := '0' ≤ c && c ≤ '7'

def startsName (c : Char) : Bool := c.isAlpha || c == '_'

def continuesName (c : Char) : Bool := c.isAlphanum || c == '_'

/-! ## Names and numbers -/

def nameAt (text : ByteText) : ByteText :=
  match text with
  | c :: _ => if startsName c then text.takeWhile continuesName else []
  | [] => []

def isName (text : ByteText) : Bool := !text.isEmpty && (nameAt text).length == text.length

def assignment? (text : ByteText) : Option (ByteText × ByteText) :=
  let name := nameAt text
  match text.drop name.length with
  | '=' :: value => if name.isEmpty then none else some (name, value)
  | _ => none

def isDigits (text : ByteText) : Bool := !text.isEmpty && text.all Char.isDigit

/-- The number that digits spell, in a base of at least ten if there are letters among them. -/
def numberOf (base : Nat) (digits : List Char) : Nat :=
  digits.foldl (fun n c =>
    n * base +
      (if c.isDigit then c.toNat - '0'.toNat else c.toLower.toNat - 'a'.toNat + 10)) 0

def decimal (digits : List Char) : Nat := numberOf 10 digits

def numeral (n : Int) : ByteText := (toString n).toList

/-- A number as a word of 64 bits holds it. -/
def inWord (n : Int) : Int := Int.bmod n 18446744073709551616

def greatest : Int := 9223372036854775807

def least : Int := -9223372036854775808

/-- A number read off the front of a text, with whether there was any, and whether it fits a
word. -/
structure ReadNumber where
  value : Int
  found : Bool
  fits : Bool
  rest : ByteText

/-- The digits at the start of a text with their base. Where the base is told by the digits, a zero
in front asks for octal, and a zero with an x for hexadecimal digits. -/
def digitsAt (toldBase : Bool) (text : ByteText) : Nat × ByteText × ByteText :=
  let taken (accepts : Char → Bool) (text : ByteText) :=
    (text.takeWhile accepts, text.dropWhile accepts)
  let isHex (c : Char) : Bool := c.isDigit || ('a' ≤ c.toLower && c.toLower ≤ 'f')
  match toldBase, text with
  | true, '0' :: x :: c :: rest =>
    if x.toLower == 'x' && isHex c then (16, taken isHex (c :: rest)) else (8, taken isOctal text)
  | true, '0' :: _ => (8, taken isOctal text)
  | _, _ => (10, taken Char.isDigit text)

/-- The whole number at the start of a text, which may have white space and a sign in front. What
does not fit a word is brought to the nearest end of it. Without any digits nothing is read. -/
def numberAt (toldBase : Bool) (text : ByteText) : ReadNumber :=
  let start := text.dropWhile isWhite
  let (negative, start) := match start with
    | '-' :: rest => (true, rest)
    | '+' :: rest => (false, rest)
    | _ => (false, start)
  let (base, digits, rest) := digitsAt toldBase start
  let size : Int := numberOf base digits
  let value := if negative then -size else size
  if digits.isEmpty then ⟨0, false, true, text⟩
  else if greatest < value then ⟨greatest, true, false, rest⟩
  else if value < least then ⟨least, true, false, rest⟩
  else ⟨value, true, true, rest⟩

/-- The number that a whole text spells, with white space around it. Where the base is told by the
digits, no text at all is zero. -/
def wholeNumber? (toldBase : Bool) (text : ByteText) : Option Int :=
  let number := numberAt toldBase text
  if number.fits && (number.found || toldBase) && (number.rest.dropWhile isWhite).isEmpty then
    some number.value
  else none

end OcamlAssist.Script
