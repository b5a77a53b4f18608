-- The text that a script is read from. An alias puts its own text in front of
-- what is left, and while that text lasts the alias does not stand for it again.
-- Here-documents are read when the line that asks for them is over, and are
-- kept by number.
import OcamlAssist.Script.Syntax

namespace OcamlAssist.Script

open OcamlAssist.Text

/-! ## Tokens and faults -/

inductive Token where
  | endOfText
  | newline
  | sign (text : String)
  | keyword (text : String)
  | redirection (stream : Nat) (signs : String)
  | word (parts : List Part)

namespace Token

def name : Token → String
  | .endOfText => "end of file"
  | .newline => "newline"
  | .sign text => "\"" ++ text ++ "\""
  | .keyword text => "\"" ++ text ++ "\""
  | .redirection _ _ => "redirection"
  | .word _ => "word"

def isSign (text : String) : Token → Bool
  | .sign found => found == text
  | _ => false

def isKeyword (text : String) : Token → Bool
  | .keyword found => found == text
  | _ => false

def keywords : List String :=
  ["!", "case", "do", "done", "elif", "else", "esac", "fi", "for", "if", "in", "then", "until",
    "while", "\x7b", "\x7d"]

def endsList : Token → Bool
  | .endOfText => true
  | .sign text => text == ")" || text == ";;"
  | .keyword text => ["do", "done", "elif", "else", "esac", "fi", "then", "\x7d"].contains text
  | _ => false

end Token

/-- What a token may be taken for. -/
structure Expected where
  keywords : Bool := false
  aliases : Bool := false
  newlines : Bool := false

def Expected.command : Expected := ⟨true, true, false⟩

def Expected.anywhere : Expected := ⟨true, true, true⟩

inductive SyntaxCause where
  | unexpected (found : String) (needed : Option String)
  | badLoopName
  | badFunctionName
  | openQuote
  | openBrace
  | openBrackets
  | openBackquote
  | tooDeep

structure SyntaxFault where
  line : Nat
  cause : SyntaxCause

def SyntaxCause.message : SyntaxCause → String
  | .unexpected found none => found ++ " unexpected"
  | .unexpected found (some needed) => found ++ " unexpected (expecting " ++ needed ++ ")"
  | .badLoopName => "Bad for loop variable"
  | .badFunctionName => "Bad function name"
  | .openQuote => "Unterminated quoted string"
  | .openBrace => "Missing '\x7d'"
  | .openBrackets => "Missing '))'"
  | .openBackquote => "EOF in backquote substitution"
  | .tooDeep => "Maximum nesting level reached"

/-! ## Sources -/

/-- What stands behind the text of an alias. -/
structure AliasFrame where
  name : ByteText
  reopens : Bool
  behind : ByteText

structure DocumentRequest where
  number : Nat
  delimiter : ByteText
  /-- Whether tabs at the starts of its lines do not count. -/
  stripsTabs : Bool
  isLiteral : Bool

structure Source where
  text : ByteText
  frames : List AliasFrame := []
  line : Nat := 1
  /-- The token that was read last, and whether it is to be read once more. -/
  last : Token := .endOfText
  held : Bool := false
  aliases : List (ByteText × ByteText) := []
  /-- Whether the next word may be an alias wherever it stands. -/
  reopened : Bool := false
  requests : List DocumentRequest := []
  /-- Here-documents that are read, by number. -/
  documents : List (Nat × List Part) := []
  nextNumber : Nat := 0

abbrev Parse := StateT Source (Except SyntaxFault)

/-- Leaves the texts of aliases that are used up. -/
def unwound : ByteText → List AliasFrame → Bool → ByteText × List AliasFrame × Bool
  | [], frame :: others, reopened => unwound frame.behind others (reopened || frame.reopens)
  | text, frames, reopened => (text, frames, reopened)

/-- The number of lines that are joined at the start of a text, and what follows. -/
def joinsAt : ByteText → Nat × ByteText
  | '\\' :: '\n' :: rest => let (count, rest) := joinsAt rest; (count + 1, rest)
  | text => (0, text)

namespace Parse

variable {α σ : Type}

def fail (cause : SyntaxCause) : Parse α := do throw ⟨(← get).line, cause⟩

/-- Takes steps until one of them gives a result, but no more than so many. -/
def iterate (step : σ → Parse (σ ⊕ α)) : (count : Nat) → σ → Parse α
  | 0, _ => fail .tooDeep
  | count + 1, state => do
    match ← step state with
    | .inl next => iterate step count next
    | .inr result => return result

/-! ## Characters -/

def peek : Parse (Option Char) := modifyGet fun s =>
  let (text, frames, reopened) := unwound s.text s.frames s.reopened
  (text.head?, { s with text, frames, reopened })

/-- The next character behind joined lines, left in place. -/
def peekJoined : Parse (Option Char) := do
  let _ ← peek
  modify fun s =>
    let (count, text) := joinsAt s.text
    { s with text, line := s.line + count }
  peek

def skip : Parse Unit := modify fun s => { s with text := s.text.tail }

def skipIf (c : Char) : Parse Bool := do
  if (← peekJoined) == some c then
    skip
    return true
  else return false

def countLine : Parse Unit := modify fun s => { s with line := s.line + 1 }

def run (accepts : Char → Bool) : Parse ByteText := modifyGet fun s =>
  let found := s.text.takeWhile accepts
  (found, { s with text := s.text.dropWhile accepts, line := s.line + found.count '\n' })

def runJoined (accepts : Char → Bool) (count : Nat) : Parse ByteText :=
  iterate (fun (found : ByteText) => do
    let _ ← peekJoined
    let more ← run accepts
    return if more.isEmpty then .inr found else .inl (found ++ more)) count []

/-! ## Tokens -/

/-- Has the last token read once more. -/
def putBack : Parse Unit := modify fun s => { s with held := true }

def settle (token : Token) : Parse Token := do
  modify fun s => { s with last := token, held := false }
  return token

def refuse (needed : Option Token) : Parse α := do
  fail (.unexpected (← get).last.name (needed.map Token.name))

/-- Reads a text of its own in the middle of another one. -/
def within (text : ByteText) (line : Nat) (inner : Parse α) : Parse α := do
  let outer ← get
  set { outer with text, frames := [], line, held := false, requests := [] }
  let result ← inner
  modify fun s => { outer with documents := s.documents, nextNumber := s.nextNumber }
  return result

end Parse

end OcamlAssist.Script
