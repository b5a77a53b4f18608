-- How a program is started: the first line of a script names the program that
-- carries it out, which may be a script itself, and in the end stands a shell.
import OcamlAssist.Machine.Files
import OcamlAssist.Script.Bytes

namespace OcamlAssist.Script

open OcamlAssist.Text

/-! ## First lines -/

def headLength : Nat := 256

/-- The bytes of a program that are looked at. A short program goes on with zeros. -/
def headOfProgram (bytes : Bytes) : ByteText :=
  let head := ofBytes (bytes.take headLength)
  head ++ List.replicate (headLength - head.length) '\x00'

def endsPath (c : Char) : Bool := isGap c || c == '\x00'

/-- The first line of what is looked at. If it does not end there, it counts only if the path in it
does. -/
def firstLine? (head : ByteText) : Option ByteText :=
  if head.contains '\n' then some (head.takeWhile (· != '\n'))
  else if (head.dropWhile isGap).any endsPath then some head.dropLast
  else none

structure Interpreter where
  path : ByteText
  word : Option ByteText
  deriving DecidableEq, Repr

def interpreter? (bytes : Bytes) : Option Interpreter := do
  let line ← (after? ['#', '!'] (headOfProgram bytes)).bind firstLine?
  let line := ((line.reverse.dropWhile isGap).reverse).dropWhile isGap
  let rest := line.dropWhile (!endsPath ·)
  if line.isEmpty then none
  else
    some {
      path := line.takeWhile (!endsPath ·)
      word := if rest.head?.any isGap then some ((rest.dropWhile isGap).takeWhile (· != '\x00'))
        else none }

/-! ## Starting -/

def shellPlaces : List Place :=
  [["bin", "sh"], ["bin", "dash"], ["usr", "bin", "sh"], ["usr", "bin", "dash"]]

/-- How many scripts in a row may be carried out by one another. -/
def scriptsInRow : Nat := 5

/-- The program that a path leads to: its place and its bytes. An empty path leads to the folder
that one is in. -/
def programAt (files : FileTree) (here : Place) (path : ByteText) :
    Except FileFault (Place × Bytes) :=
  if path.isEmpty then .error .notAllowed
  else do
    let place ← files.resolve here (shown path)
    match files.node? place with
    | some (.file bytes true _) => .ok (place, bytes)
    | some _ => .error .notAllowed
    | none => .error .missing

/-- The words that the shell gets in the end when a program is started with words. -/
def shellWords (files : FileTree) (here : Place) :
    (scripts : Nat) → (path : ByteText) → (words : List ByteText) → Except FileFault (List ByteText)
  | scripts, path, words => do
    let (place, bytes) ← programAt files here path
    if shellPlaces.contains place then .ok words
    else
      match interpreter? bytes, scripts with
      | none, _ => .error .badProgram
      | some found, 0 => do
        let _ ← programAt files here found.path
        .error .tooManyLinks
      | some found, scripts + 1 =>
        shellWords files here scripts found.path
          (found.path :: found.word.toList ++ path :: words.tail)

end OcamlAssist.Script
