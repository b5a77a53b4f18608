-- Patterns: a star fits any text, a question mark any character, and brackets
-- any of the characters that they list. A backslash takes the meaning from the
-- character behind it.
import OcamlAssist.Script.Bytes

namespace OcamlAssist.Script

open OcamlAssist.Text

namespace Pattern

/-! ## Classes of characters -/

def isGraphic (c : Char) : Bool := ' ' < c && c < '\x7f'

def classes : List (String × (Char → Bool)) :=
  [(":alnum:]", Char.isAlphanum), (":alpha:]", Char.isAlpha), (":blank:]", isGap),
    (":cntrl:]", fun c => c < ' ' || c == '\x7f'), (":digit:]", Char.isDigit),
    (":graph:]", isGraphic), (":lower:]", Char.isLower),
    (":print:]", fun c => isGraphic c || c == ' '),
    (":punct:]", fun c => isGraphic c && !c.isAlphanum), (":space:]", isWhite),
    (":upper:]", Char.isUpper),
    (":xdigit:]", fun c => c.isDigit || ('a' ≤ c.toLower && c.toLower ≤ 'f'))]

/-- The class that is named at the start of a pattern, and what follows. -/
def classAt (pattern : ByteText) : Option ((Char → Bool) × ByteText) :=
  classes.findSome? fun (name, accepts) =>
    (after? name.toList pattern).map fun rest => (accepts, rest)

/-- The place of a byte in the order that ranges go by, in which the upper half comes first. -/
def rank (c : Char) : Int := if c.toNat < 128 then c.toNat else (c.toNat : Int) - 256

/-- Whether the rest of a list in brackets holds a character, and what follows the list. A closing
bracket that comes first is one of the list. Without a closing bracket there is no list. -/
def members (c : Char) : (count : Nat) → (isFirst found : Bool) → ByteText →
    Option (Bool × ByteText)
  | 0, _, _, _ => none
  | _, _, _, [] => none
  | count + 1, isFirst, found, one :: rest =>
    let through (low : Char) (rest : ByteText) : Option (Bool × ByteText) :=
      match rest with
      | ['-'] => none
      | '-' :: high :: more =>
        if high == ']' then members c count false (found || c == low) rest
        else
          match high, more with
          | '\\', high :: more =>
            members c count false (found || (rank low ≤ rank c && rank c ≤ rank high)) more
          | '\\', [] => none
          | high, more =>
            members c count false (found || (rank low ≤ rank c && rank c ≤ rank high)) more
      | rest => members c count false (found || c == low) rest
    if one == ']' && !isFirst then some (found, rest)
    else if one == '[' then
      match classAt rest with
      | some (accepts, rest) => members c count false (found || accepts c) rest
      | none => through one rest
    else if one == '\\' then
      match rest with
      | one :: rest => through one rest
      | [] => none
    else through one rest

/-! ## Fitting -/

def suffixes : ByteText → List ByteText
  | [] => [[]]
  | c :: text => (c :: text) :: suffixes text

def fitsUpTo : (count : Nat) → (pattern text : ByteText) → Bool
  | _, [], text => text.isEmpty
  | 0, _, _ => false
  | count + 1, p :: pattern, text =>
    let itself (p : Char) (pattern : ByteText) : Bool :=
      match text with
      | c :: text => p == c && fitsUpTo count pattern text
      | [] => false
    match p with
    | '*' => (suffixes text).any (fitsUpTo count pattern)
    | '?' => !text.isEmpty && fitsUpTo count pattern text.tail
    | '\\' =>
      match pattern with
      | p :: pattern => itself p pattern
      | [] => itself '\\' []
    | '[' =>
      match text with
      | [] => false
      | c :: text =>
        let isNegated := pattern.head? == some '!'
        match members c (count + 1) true false (if isNegated then pattern.tail else pattern) with
        | some (found, rest) => found != isNegated && fitsUpTo count rest text
        | none => itself '[' pattern
    | p => itself p pattern

def fits (pattern text : ByteText) : Bool := fitsUpTo pattern.length pattern text

/-- Whether a pattern has a character in it that fits more than itself. -/
def isOpen (pattern : ByteText) : Bool := pattern.any fun c => c == '*' || c == '?' || c == '['

def quoted (c : Char) : ByteText :=
  if ['!', '*', '?', '[', ']', '=', '~', ':', '-', '\\'].contains c then ['\\', c] else [c]

def unquoted : ByteText → ByteText
  | [] => []
  | ['\\'] => ['\\']
  | '\\' :: c :: rest => c :: unquoted rest
  | c :: rest => c :: unquoted rest

/-! ## Trimming -/

def trimStart (longest : Bool) (pattern text : ByteText) : ByteText :=
  let counts := List.range (text.length + 1)
  match (if longest then counts.reverse else counts).find? fun n => fits pattern (text.take n) with
  | some n => text.drop n
  | none => text

def trimEnd (longest : Bool) (pattern text : ByteText) : ByteText :=
  let counts := List.range (text.length + 1)
  match (if longest then counts else counts.reverse).find? fun n => fits pattern (text.drop n) with
  | some n => text.take n
  | none => text

end Pattern

end OcamlAssist.Script
