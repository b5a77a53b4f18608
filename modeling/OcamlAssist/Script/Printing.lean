-- What the printing commands write: escapes, and formats that are used again
-- for as long as there are arguments.
import OcamlAssist.Script.Fraction

namespace OcamlAssist.Script

open OcamlAssist.Text

/-! ## Escapes -/

def escapedByte? : Char → Option Char
  | 'a' => some '\x07'
  | 'b' => some '\x08'
  | 'e' => some '\x1b'
  | 'f' => some '\x0c'
  | 'n' => some '\n'
  | 'r' => some '\r'
  | 't' => some '\t'
  | 'v' => some '\x0b'
  | '\\' => some '\\'
  | _ => none

/-- The byte that stands behind a backslash, and what follows. What is no escape leaves the
backslash as it is. -/
def escapeAt (text : ByteText) : Char × ByteText :=
  match text with
  | [] => ('\\', [])
  | c :: rest =>
    let digits := (text.take 3).takeWhile isOctal
    if digits.isEmpty then
      match escapedByte? c with
      | some byte => (byte, rest)
      | none => ('\\', text)
    else (Char.ofNat (numberOf 8 digits % 256), text.drop digits.length)

/-- A text with its escapes carried out, up to an escape that ends all output; whether there was
one is told besides. A zero may stand in front of the digits of a byte. -/
def escapesIn : (count : Nat) → ByteText → ByteText × Bool
  | 0, text => (text, false)
  | _, [] => ([], false)
  | _ + 1, '\\' :: 'c' :: _ => ([], true)
  | count + 1, '\\' :: rest =>
    let rest := match rest with
      | '0' :: digit :: more => if isOctal digit then digit :: more else rest
      | _ => rest
    let (byte, rest) := escapeAt rest
    let (others, ended) := escapesIn count rest
    (byte :: others, ended)
  | count + 1, c :: rest =>
    let (others, ended) := escapesIn count rest
    (c :: others, ended)

def withEscapes (text : ByteText) : ByteText × Bool := escapesIn text.length text

/-- Words with a space between neighbours, and their escapes carried out. A first word that asks
for it leaves out the end of the line. -/
def echoed (args : List ByteText) : ByteText :=
  let (ending, args) := match args with
    | ['-', 'n'] :: rest => ([], rest)
    | args => (['\n'], args)
  let (text, ended) := withEscapes (join [' '] args)
  if ended then text else text ++ ending

/-! ## Conversions -/

inductive Measure where
  | none
  | given (size : Nat)
  | argument

structure Conversion where
  flags : List Char
  width : Measure
  precision : Measure
  kind : Char
  shown : ByteText

def measureAt (absent : Measure) (text : ByteText) : Measure × ByteText :=
  match text with
  | '*' :: rest => (.argument, rest)
  | _ =>
    let digits := text.takeWhile Char.isDigit
    (if digits.isEmpty then absent else .given (decimal digits), text.drop digits.length)

def conversionAt (text : ByteText) : Option (Conversion × ByteText) :=
  let isFlag (c : Char) : Bool := ['#', '-', '+', ' ', '0'].contains c
  let flags := text.takeWhile isFlag
  let (width, rest) := measureAt .none (text.dropWhile isFlag)
  let (precision, rest) := match rest with
    | '.' :: rest => measureAt (.given 0) rest
    | rest => (.none, rest)
  match rest with
  | [] => none
  | kind :: rest =>
    some (⟨flags, width, precision, kind, '%' :: text.take (text.length - rest.length)⟩, rest)

structure Layout where
  flags : List Char
  width : Nat
  precision : Option Nat

namespace Layout

def has (l : Layout) (flag : Char) : Bool := l.flags.contains flag

/-- A text brought to the width: with spaces behind or in front of it, or, if it may be, with zeros
behind its sign. -/
def widened (l : Layout) (mayFill : Bool) (sign text : ByteText) : ByteText :=
  let missing := l.width - (sign.length + text.length)
  if l.has '-' then sign ++ text ++ List.replicate missing ' '
  else if mayFill && l.has '0' then sign ++ List.replicate missing '0' ++ text
  else List.replicate missing ' ' ++ sign ++ text

def text (l : Layout) (text : ByteText) : ByteText :=
  l.widened false [] (l.precision.elim text text.take)

def sign (l : Layout) (negative : Bool) : ByteText :=
  if negative then ['-'] else if l.has '+' then ['+'] else if l.has ' ' then [' '] else []

def digits (l : Layout) (base : Nat) (upper : Bool) (n : Nat) : List Char :=
  let found := if n = 0 && l.precision == some 0 then [] else Nat.toDigits base n
  let found := if upper then found.map Char.toUpper else found
  List.replicate (l.precision.getD 0 - found.length) '0' ++ found

def signed (l : Layout) (n : Int) : ByteText :=
  l.widened l.precision.isNone (l.sign (n < 0)) (l.digits 10 false n.natAbs)

def unsigned (l : Layout) (base : Nat) (upper : Bool) (n : Nat) : ByteText :=
  let digits := l.digits base upper n
  let mark := if !l.has '#' then []
    else if base = 8 && digits.head? != some '0' then ['0']
    else if base = 16 && n != 0 then ['0', if upper then 'X' else 'x']
    else []
  l.widened l.precision.isNone mark digits

def pointed (l : Layout) (kind : Char) (n : Fraction) : ByteText :=
  l.widened n.isFinite (l.sign n.isNegative) (n.written kind l.precision (l.has '#'))

end Layout

/-! ## Formats -/

structure Printed where
  /-- What is written, the last part first. -/
  parts : List ByteText := []
  args : List ByteText
  complaints : List ByteText := []
  ended : Bool := false

/-- A step of carrying out a format. It may end with a complaint about the format. -/
abbrev Printer := StateT Printed (Except ByteText)

namespace Printer

def write (text : ByteText) : Printer Unit := modify fun s => { s with parts := text :: s.parts }

def argument : Printer (Option ByteText) := modifyGet fun s => (s.args.head?, { s with args := s.args.tail })

/-- Complains about an argument of which something is left over or that does not fit. -/
def check (text rest : ByteText) (found fits : Bool) : Printer Unit := do
  let complain (what : String) : Printer Unit :=
    modify fun s => { s with complaints := (text ++ ofString (": " ++ what)) :: s.complaints }
  if !rest.isEmpty then
    complain (if found then "not completely converted" else "expected numeric value")
  else if !fits then complain "Numerical result out of range"

def quotedByte? : ByteText → Option Nat
  | '"' :: rest => some (rest.head?.elim 0 Char.toNat)
  | '\'' :: rest => some (rest.head?.elim 0 Char.toNat)
  | _ => none

def signedArgument : Printer Int := do
  match ← argument with
  | none => return 0
  | some text =>
    match quotedByte? text with
    | some byte => return byte
    | none => do
      let number := numberAt true text
      check text number.rest number.found number.fits
      return number.value

/-- The next argument as a whole number without a sign. A negative one counts from the end of the
numbers in a word. -/
def unsignedArgument : Printer Nat := do
  match ← argument with
  | none => return 0
  | some text =>
    match quotedByte? text with
    | some byte => return byte
    | none => do
      let number := numberAt true text
      let size : Nat :=
        numberOf (digitsAt true (text.dropWhile fun c => isWhite c || c == '-' || c == '+')).1
          (digitsAt true (text.dropWhile fun c => isWhite c || c == '-' || c == '+')).2.1
      let isNegative := (text.dropWhile isWhite).head? == some '-'
      let fits := size < 18446744073709551616
      check text number.rest number.found fits
      if !number.found then return 0
      else if !fits then return 18446744073709551615
      else if isNegative && size != 0 then return 18446744073709551616 - size
      else return size

def pointedArgument : Printer Fraction := do
  match ← argument with
  | none => return .finite false 0 0
  | some text =>
    match quotedByte? text with
    | some byte => return .finite false byte 0
    | none =>
      match Fraction.readAt text with
      | some (found, fits, rest) => do
        check text rest true fits
        return found
      | none => do
        check text text false true
        return .finite false 0 0

def measured : Measure → Printer (Option Int)
  | .none => return none
  | .given size => return some size
  | .argument => do return some (← signedArgument)

def convert (c : Conversion) : Printer Unit := do
  let width := (← measured c.width).getD 0
  let precision := (← measured c.precision).filter (0 ≤ ·)
  let flags := if width < 0 then '-' :: c.flags else c.flags
  let l : Layout := ⟨flags, width.natAbs, precision.map Int.toNat⟩
  match c.kind with
  | 's' => do write (l.text ((← argument).getD []))
  | 'b' => do
    let (text, ended) := withEscapes ((← argument).getD [])
    write (l.text text)
    modify fun s => { s with ended }
  | 'c' => do write (l.widened false [] [((← argument).bind List.head?).getD '\x00'])
  | 'd' => do write (l.signed (← signedArgument))
  | 'i' => do write (l.signed (← signedArgument))
  | 'u' => do write (l.unsigned 10 false (← unsignedArgument))
  | 'o' => do write (l.unsigned 8 false (← unsignedArgument))
  | 'x' => do write (l.unsigned 16 false (← unsignedArgument))
  | 'X' => do write (l.unsigned 16 true (← unsignedArgument))
  | kind =>
    if ['e', 'E', 'f', 'F', 'g', 'G'].contains kind then do
      write (l.pointed kind (← pointedArgument))
    else throw (c.shown ++ ofString ": invalid directive")

/-- Carries out a format once. A fault leaves what is written before it. -/
def once : (count : Nat) → (format : ByteText) → Printed → Printed × Option ByteText
  | 0, _, s => (s, none)
  | _, [], s => (s, none)
  | count + 1, '%' :: '%' :: rest, s => once count rest { s with parts := ['%'] :: s.parts }
  | count + 1, '%' :: rest, s =>
    match conversionAt rest with
    | none => (s, some (ofString "missing format character"))
    | some (conversion, rest) =>
      match convert conversion s with
      | .error fault => (s, some fault)
      | .ok (_, s) => if s.ended then (s, none) else once count rest s
  | count + 1, '\\' :: rest, s =>
    let (byte, rest) := escapeAt rest
    once count rest { s with parts := [byte] :: s.parts }
  | count + 1, c :: rest, s => once count rest { s with parts := [c] :: s.parts }

/-- Carries out a format for as long as it takes arguments and there are any. -/
def again (format : ByteText) : (count : Nat) → Printed → Printed × Option ByteText
  | 0, s => (s, none)
  | count + 1, s =>
    match once format.length format s with
    | (after, some fault) => (after, some fault)
    | (after, none) =>
      if after.ended || after.args.isEmpty || after.args.length == s.args.length then (after, none)
      else again format count after

end Printer

def formatted (format : ByteText) (args : List ByteText) : Printed × Option ByteText :=
  Printer.again format (args.length + 1) { args }

def Printed.text (p : Printed) : ByteText := p.parts.reverse.flatten

end OcamlAssist.Script
