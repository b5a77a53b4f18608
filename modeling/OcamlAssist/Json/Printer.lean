-- Printing JSON for people: a part a line, each level set in by two spaces.
import OcamlAssist.Text.Split

namespace OcamlAssist.Json

open OcamlAssist.Text

inductive Value where
  | number (n : Nat)
  | text (s : String)
  | array (parts : List Value)
  | object (members : List (String × Value))

def hexDigit (n : Nat) : Char := if n < 10 then Char.ofNat ('0'.toNat + n) else Char.ofNat ('a'.toNat + n - 10)

def writtenChar (c : Char) : List Char :=
  match c with
  | '"' => ['\\', '"']
  | '\\' => ['\\', '\\']
  | '\x08' => ['\\', 'b']
  | '\x0c' => ['\\', 'f']
  | '\n' => ['\\', 'n']
  | '\r' => ['\\', 'r']
  | '\t' => ['\\', 't']
  | c =>
    if c < ' ' then ['\\', 'u', '0', '0', hexDigit (c.toNat / 16), hexDigit (c.toNat % 16)] else [c]

def writtenText (s : String) : List Char := '"' :: s.toList.flatMap writtenChar ++ ['"']

/-- The start of a line at a level. -/
def lineStart (level : Nat) : List Char := '\n' :: List.replicate (2 * level) ' '

/-- Parts between brackets at a level, each on a line of its own. -/
def bracketed (level : Nat) (opening closing : Char) (parts : List (List Char)) : List Char :=
  if parts.isEmpty then [opening, closing]
  else
    let inner := join [','] (parts.map fun part => lineStart (level + 1) ++ part)
    opening :: inner ++ lineStart level ++ [closing]

mutual

def written (level : Nat) : Value → List Char
  | .number n => (toString n).toList
  | .text s => writtenText s
  | .array parts => bracketed level '[' ']' (writtenParts (level + 1) parts)
  | .object members => bracketed level '{' '}' (writtenMembers (level + 1) members)

def writtenParts (level : Nat) : List Value → List (List Char)
  | [] => []
  | part :: rest => written level part :: writtenParts level rest

def writtenMembers (level : Nat) : List (String × Value) → List (List Char)
  | [] => []
  | (key, value) :: rest =>
    (writtenText key ++ ':' :: ' ' :: written level value) :: writtenMembers level rest

end

def print (value : Value) : String := String.ofList (written 0 value)

end OcamlAssist.Json
