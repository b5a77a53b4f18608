-- Binding headers: `let` or `let rec`, names, and an equals sign; or `fun`,
-- names, and an arrow. Names stand one after the other, each with an optional
-- label marker in front. A header is recognised by its shape alone, whatever
-- stands before it.
import OcamlAssist.Text.Split

namespace OcamlAssist.Locals

open OcamlAssist.Chars OcamlAssist.Text

def isNameChar (c : Char) : Bool := isIdent c || isTick c

def isMarker (c : Char) : Bool := c == '?' || c == '~'

def startsWith (accepts : Char → Bool) : List Char → Bool
  | [] => false
  | c :: _ => accepts c

/-- The longest run of names at the start of a text. A marker belongs to it only with a name
right behind it. -/
def nameRun : List Char → List Char
  | [] => []
  | c :: rest =>
    if isNameChar c || isBlank c || (isMarker c && startsWith isNameChar rest) then
      c :: nameRun rest
    else []

/-- The run of names at the start of a text that opens with a name and has `closing` right
behind it. -/
def namesBefore? (closing text : List Char) : Option (List Char) :=
  let run := nameRun text
  if startsWith (fun c => isNameChar c || isMarker c) run &&
      closing.isPrefixOf (text.drop run.length) then some run
  else none

def afterBlanks? (text : List Char) : Option (List Char) :=
  if startsWith isBlank text then some (text.dropWhile isBlank) else none

/-- A header that was found: its run of names and the number of characters it takes up. -/
structure Header where
  names : List Char
  length : Nat
  deriving DecidableEq, Repr

/-- A header whose names start at `text`, which is a suffix of `whole`, and end at `closing`. -/
def Header.from? (whole closing text : List Char) : Option Header :=
  (namesBefore? closing text).map fun run =>
    ⟨run, whole.length - text.length + run.length + closing.length⟩

/-- The `let` header at the start of a text. The word `rec` is a keyword wherever names and an
equals sign follow it, and a name elsewhere. -/
def letHeader? (text : List Char) : Option Header := do
  let body ← (after? ['l', 'e', 't'] text).bind afterBlanks?
  let recursive := ((after? ['r', 'e', 'c'] body).bind afterBlanks?).bind (Header.from? text ['='])
  recursive.or (Header.from? text ['='] body)

def funHeader? (text : List Char) : Option Header := do
  let body ← (after? ['f', 'u', 'n'] text).bind afterBlanks?
  Header.from? text ['-', '>'] body

/-- The headers of a text from left to right, none inside another. The first `skip` characters
belong to a header that is already found. -/
def headers (find? : List Char → Option Header) : (skip : Nat) → List Char → List Header
  | _, [] => []
  | skip + 1, _ :: rest => headers find? skip rest
  | 0, c :: rest =>
    match find? (c :: rest) with
    | some header => header :: headers find? (header.length - 1) rest
    | none => headers find? 0 rest

end OcamlAssist.Locals
