-- TOML documents: lines that are blank, hold a key with its value, or head a
-- table. Values nest, but not without bound, and neither do keys.
import OcamlAssist.Toml.Scalar

namespace OcamlAssist.Toml

open OcamlAssist.Text

/-- How many parts a key may have, and how many brackets may stand around a value, one more than
is allowed. -/
def nestingLimit : Nat := 80

/-! ## Keys -/

def isBareChar (c : Char) : Bool := c.isAlphanum || c == '-' || c == '_'

def keyPart : Reader String := do
  spaces
  let found ← quoted <|> literal <|> Reader.someRun isBareChar
  spaces
  return String.ofList found

def key : Reader (List String × String) := do
  let parts ← Reader.separated keyPart (Reader.one (· == '.'))
  match parts.getLast? with
  | some last => if parts.length < nestingLimit then return (parts.dropLast, last) else failure
  | none => failure

/-! ## Values -/

/-- What may stand between the parts of an array: blanks, line ends, and comments that a line end
follows. -/
def arrayGap : Reader Unit := do
  let _ ← Reader.repeated
    ((do let _ ← Reader.someRun isSpace) <|> newline <|> (do comment; newline))

def array (part : Reader Node) : Reader Node := do
  let _ ← Reader.one (· == '[')
  let found ← Reader.optional (Reader.separated (do
      arrayGap
      let found ← part
      arrayGap
      return found) (Reader.one (· == ',')))
  if found.isSome then
    let _ ← Reader.optional (Reader.one (· == ','))
  arrayGap
  let _ ← Reader.one (· == ']')
  return .array (found.getD [])

def member (value : Reader Node) : Reader (List String × String × Node) := do
  let (path, last) ← key
  let _ ← Reader.one (· == '=')
  spaces
  let found ← value
  spaces
  return (path, last, found)

def bracedTable (value : Reader Node) : Reader Node := do
  let _ ← Reader.one (· == '{')
  let members ← Reader.optional (Reader.separated (member value) (Reader.one (· == ',')))
  spaces
  let _ ← Reader.one (· == '}')
  let entries ← (members.getD []).foldlM
    (fun (entries : Entries) (path, last, found) => entries.addAt path last found) ([] : Entries)
  return .table .braces entries

/-- A value with no more than `depth` brackets around any part of it. -/
def value : (depth : Nat) → Reader Node
  | 0 => scalar
  | depth + 1 => scalar <|> array (value depth) <|> bracedTable (value depth)

/-! ## Lines -/

def lineEnd : Reader Unit := newline <|> Reader.atEnd

def lineRest : Reader Unit := do
  spaces
  let _ ← Reader.optional comment
  lineEnd

def keyLine (d : Draft) : Reader Draft := do
  let (path, last) ← key
  let _ ← Reader.one (· == '=')
  spaces
  let found ← value (nestingLimit - 1)
  lineRest
  d.add path last found

def headerLine (d : Draft) : Reader Draft :=
  (do
    Reader.word ['[', '[']
    let (path, last) ← key
    Reader.word [']', ']']
    lineRest
    d.openShared (path ++ [last])) <|>
  (do
    Reader.word ['[']
    let (path, last) ← key
    Reader.word [']']
    lineRest
    d.openTable (path ++ [last]))

def line (d : Draft) : Reader Draft := do
  spaces
  let found ← Reader.next?
  match found with
  | some '[' => headerLine d
  | some '#' => do
    comment
    lineEnd
    return d
  | some '\n' => do
    newline
    return d
  | some '\r' => do
    newline
    return d
  | some _ => keyLine d
  | none => return d

/-- The lines of a document up to its end. Every line takes something off the text. -/
def linesFrom (d : Draft) (text : List Char) : Option Draft :=
  match line d text with
  | none => none
  | some (d, []) => some d
  | some (d, c :: rest) =>
    if (c :: rest).length < text.length then linesFrom d (c :: rest) else none
  termination_by text.length

/-- The entries of a document. A mark of the byte order may stand in front of it. -/
def read? (text : String) : Option Entries :=
  let text := match text.toList with
    | '\uFEFF' :: rest => rest
    | text => text
  (linesFrom {} text).bind Draft.close

end OcamlAssist.Toml
