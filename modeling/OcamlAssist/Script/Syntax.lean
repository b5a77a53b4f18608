-- Scripts as they are read: words with quotes and expansions in them, commands,
-- and the structures that hold commands together.
import OcamlAssist.Script.Bytes

namespace OcamlAssist.Script

/-- What is made of the value of a parameter, or of its absence. A colon makes an empty value as
good as none. -/
inductive ParameterUse where
  | value (colon : Bool)
  | length
  | orElse (colon : Bool)
  | instead (colon : Bool)
  | assigned (colon : Bool)
  | demanded (colon : Bool)
  /-- The value without a stretch at its start or its end that fits a pattern. -/
  | trimmed (atEnd longest : Bool)
  | unknown
  deriving DecidableEq, Repr

inductive FileUse where
  | read
  | write
  | overwrite
  | append
  | both
  deriving DecidableEq, Repr

mutual

/-- A part of a word. What is quoted is not split into words and fits only itself. -/
inductive Part where
  | text (quoted : Bool) (chars : ByteText)
  /-- A quotation mark stood here. -/
  | mark
  | parameter (quoted : Bool) (name : ByteText) (use : ParameterUse) (word : List Part)
  | arithmetic (quoted : Bool) (parts : List Part)
  | output (quoted : Bool) (body : Command)

inductive Redirection where
  | file (stream : Nat) (use : FileUse) (path : List Part)
  /-- Where another stream leads, or nowhere. -/
  | copy (stream : Nat) (source : List Part)
  | document (stream number : Nat)

/-- A command. Lines are counted from one. -/
inductive Command where
  | nothing
  | simple (line : Nat) (assignments words : List (List Part)) (redirections : List Redirection)
  | pipeline (stages : List Command)
  | background (body : Command)
  | sequence (first second : Command)
  /-- The second command, if the first ends well. -/
  | andThen (first second : Command)
  | orElse (first second : Command)
  | not (body : Command)
  | choice (condition body otherwise : Command)
  /-- A body as long as its condition ends as wanted. -/
  | loop (wanted : Bool) (condition body : Command)
  | each (line : Nat) (name : ByteText) (words : List (List Part)) (body : Command)
  | cases (line : Nat) (subject : List Part) (arms : List (List (List Part) × Command))
  | redirected (line : Nat) (body : Command) (redirections : List Redirection)
  /-- A body that changes nothing but what is written. -/
  | subshell (line : Nat) (body : Command) (redirections : List Redirection)
  | function (name : ByteText) (body : Command)

end

/-- The arguments as they are, each a word of its own. -/
def allArguments : Part := .parameter true ['@'] (.value false) []

/-- The parts with neighbouring texts of one kind put together. -/
def joinTexts : List Part → List Part
  | [] => []
  | part :: rest =>
    match part, joinTexts rest with
    | .text quoted chars, .text alike more :: others =>
      if quoted == alike then .text quoted (chars ++ more) :: others
      else .text quoted chars :: .text alike more :: others
    | part, others => part :: others

def isQuoted (word : List Part) : Bool := word.any fun
  | .mark => true
  | .text quoted _ => quoted
  | .parameter quoted _ _ _ => quoted
  | .arithmetic quoted _ => quoted
  | .output quoted _ => quoted

def plain? (word : List Part) : Option ByteText :=
  match word with
  | [.text false chars] => some chars
  | _ => none

def literalText (word : List Part) : ByteText := word.flatMap fun
  | .text _ chars => chars
  | _ => []

def isAssignment (word : List Part) : Bool :=
  match word with
  | .text false chars :: _ => (assignment? chars).isSome
  | _ => false

end OcamlAssist.Script
