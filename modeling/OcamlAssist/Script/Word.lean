-- Reading words: text, quotes, and what a dollar sign or a backquote opens.
-- What is read inside depends on what stands around it, which is the quoting.
import OcamlAssist.Script.Source

namespace OcamlAssist.Script

open OcamlAssist.Text

/-! ## Quoting -/

/-- What stands around a stretch of a word. -/
inductive Quoting where
  | bare
  | delimiter
  | braces
  | marks
  /-- The braces of a parameter with quotation marks around them; at the end of a here-document
  nothing is wrong with the marks. -/
  | markedBraces (inDocument : Bool)
  | document
  | arithmetic
  deriving DecidableEq

namespace Quoting

def quotes : Quoting → Bool
  | .bare => false
  | .delimiter => false
  | .braces => false
  | .marks => true
  | .markedBraces _ => true
  | .document => true
  | .arithmetic => true

def inBraces (quoting : Quoting) (use : ParameterUse) : Quoting :=
  match use, quoting with
  | .trimmed _ _, _ => .braces
  | _, .bare => .braces
  | _, .delimiter => .braces
  | _, .braces => .braces
  | _, .document => .markedBraces true
  | _, .markedBraces inDocument => .markedBraces inDocument
  | _, _ => .markedBraces false

/-- Whether a backslash takes its meaning from a character. Outside quotes it takes it from all
characters. -/
def isEscapable (quoting : Quoting) (c : Char) : Bool :=
  let always := c == '\\' || c == '\x60' || c == '$'
  match quoting with
  | .bare => true
  | .delimiter => true
  | .braces => true
  | .document => always
  | .markedBraces _ => always || c == '"' || c == '}'
  | .marks => always || c == '"'
  | .arithmetic => always || c == '"'

end Quoting

def endsWord (c : Char) : Bool :=
  isGap c || c == '\n' || c == ';' || c == '&' || c == '|' || c == '<' || c == '>' || c == '(' ||
    c == ')'

def isLive (c : Char) : Bool :=
  c == '\\' || c == '"' || c == '\'' || c == '$' || c == '\x60' || c == '}' || c == '(' ||
    c == ')' || c == '\n'

def isSpecial (c : Char) : Bool := c.isDigit || ['!', '@', '#', '*', '?', '$', '-'].contains c

/-! ## Readers -/

inductive ListKind where
  | line
  /-- A token that ends lists, behind the first command. -/
  | body
  /-- A token that ends lists, even in front of the first command. -/
  | maybeEmpty
  deriving DecidableEq

/-- Readers for what may nest: the parts of words, commands, and lists of commands. -/
structure Nested where
  turns : Nat
  parts : Quoting → Parse (List Part)
  command : Expected → Parse Command
  commands : ListKind → Parse Command

namespace Nested

open Parse

/-! ## Parameters -/

def parameterUse : Parse ParameterUse := do
  match ← peekJoined with
  | some '%' => trimming '%' true
  | some '#' => trimming '#' false
  | some ':' => do
    skip
    signed true
  | _ => signed false
where
  trimming (sign : Char) (atEnd : Bool) : Parse ParameterUse := do
    skip
    return .trimmed atEnd (← skipIf sign)
  signed (colon : Bool) : Parse ParameterUse := do
    let c ← peekJoined
    skip
    match c with
    | some '}' => return .value colon
    | some '-' => return .orElse colon
    | some '+' => return .instead colon
    | some '?' => return .demanded colon
    | some '=' => return .assigned colon
    | _ => return .unknown

/-- The name of a parameter in braces. A sign of number in front of a name asks for the length; by
itself, or with a use behind it, it is a name. -/
def bracedName (turns : Nat) : Parse (ByteText × Option ParameterUse) := do
  match ← peekJoined with
  | none => return ([], some .unknown)
  | some '#' => do
    skip
    match ← peekJoined with
    | none => return (['#'], none)
    | some c =>
      if continuesName c then return (← nameFrom c, some .length)
      else
        let before ← get
        skip
        let second ← peekJoined
        if c != '}' && second == some '}' then
          if isSpecial c then return ([c], some .length) else return ([], some .unknown)
        else
          set before
          return (['#'], none)
  | some c =>
    if continuesName c then return (← nameFrom c, none)
    else if isSpecial c then
      skip
      return ([c], none)
    else return ([], some .unknown)
where
  nameFrom (c : Char) : Parse ByteText :=
    runJoined (if c.isDigit then Char.isDigit else continuesName) turns

def bracedParameter (inner : Nested) (quoting : Quoting) : Parse Part := do
  let (name, known) ← bracedName inner.turns
  let use ← match known with
    | none => parameterUse
    | some .length => do if (← peekJoined) == some '}' then pure .length else pure .unknown
    | some use => pure use
  if use = .value false then return .parameter quoting.quotes name use []
  else
    let word ← inner.parts (quoting.inBraces use)
    return .parameter quoting.quotes name use word

/-! ## Commands in words -/

def bracketedCommand (inner : Nested) (quoting : Quoting) : Parse Part := do
  let requests := (← get).requests
  modify fun s => { s with requests := [] }
  let body ← inner.commands .maybeEmpty
  if !(← get).last.isSign ")" then refuse (some (.sign ")"))
  modify fun s => { s with requests, held := false }
  return .output quoting.quotes body

/-- A command between backquotes. A backslash in front of a character that is live there is left
out of the command. -/
def backquotedCommand (inner : Nested) (quoting : Quoting) : Parse Part := do
  let text ← iterate (fun (found : ByteText) => do
    match ← peekJoined with
    | none => fail .openBackquote
    | some c => do
      skip
      if c == '\x60' then return .inr found
      else if c == '\\' then
        let next ← peek
        skip
        match next with
        | none => fail .openBackquote
        | some next =>
          let isLive := next == '\\' || next == '\x60' || next == '$' ||
            (quoting.quotes && next == '"')
          return .inl (found ++ if isLive then [next] else ['\\', next])
      else
        if c == '\n' then countLine
        return .inl (found ++ [c])) inner.turns []
  let body ← within text 1 (inner.commands .maybeEmpty)
  return .output quoting.quotes body

def dollar (inner : Nested) (quoting : Quoting) : Parse Part := do
  let c ← peekJoined
  match c with
  | some '(' => do
    skip
    if ← skipIf '(' then return .arithmetic quoting.quotes (← inner.parts .arithmetic)
    else bracketedCommand inner quoting
  | some '{' => do
    skip
    bracedParameter inner quoting
  | some c =>
    if startsName c then
      let name ← runJoined continuesName inner.turns
      return .parameter quoting.quotes name (.value false) []
    else if isSpecial c then
      skip
      return .parameter quoting.quotes [c] (.value false) []
    else return .text quoting.quotes ['$']
  | none => return .text quoting.quotes ['$']

/-! ## Parts -/

def escaped (quoting : Quoting) : Parse (List Part) := do
  match ← peek with
  | none => return [.text true ['\\']]
  | some c => do
    skip
    if c == '\n' then countLine
    return [.text true (if quoting.isEscapable c then [c] else ['\\', c])]

def singleQuoted : Parse (List Part) := do
  let found ← run (· != '\'')
  if (← peek).isNone then fail .openQuote
  skip
  return [.mark, .text true found, .mark]

/-- The parts between quotation marks. All arguments by themselves have no marks, so that they may
be no word at all. -/
def doubleQuoted (inner : Nested) : Parse (List Part) := do
  match ← inner.parts .marks with
  | [.parameter true ['@'] (.value false) word] =>
    return [.parameter true ['@'] (.value false) word]
  | found => return .mark :: found ++ [.mark]

/-- How far a stretch is read: its parts, how many brackets are open in it, and whether
quotation marks are open in its braces. -/
structure Stretch where
  parts : List Part := []
  brackets : Nat := 0
  marked : Bool := false

def atTextEnd (quoting : Quoting) (found : List Part) : Parse (Stretch ⊕ List Part) :=
  match quoting with
  | .bare => return .inr found
  | .delimiter => return .inr found
  | .document => return .inr found
  | .braces => fail .openBrace
  | .markedBraces true => fail .openBrace
  | .markedBraces false => fail .openQuote
  | .marks => fail .openQuote
  | .arithmetic => fail .openBrackets

def nextPart (inner : Nested) (quoting : Quoting) (stretch : Stretch) :
    Parse (Stretch ⊕ List Part) := do
  let quoted := quoting.quotes
  let found := stretch.parts
  let more (parts : List Part) : Parse (Stretch ⊕ List Part) :=
    return .inl { stretch with parts := parts.reverse ++ found }
  let isBraces := match quoting with
    | .braces => true
    | .markedBraces _ => true
    | _ => false
  let isMarkedBraces := isBraces && quoted
  match ← peekJoined with
  | none => atTextEnd quoting found.reverse
  | some c =>
    let plain ← run fun c => !isLive c && (quoted || isBraces || !endsWord c)
    if !plain.isEmpty then more [.text quoted plain]
    else if (quoting = .bare ∨ quoting = .delimiter) ∧ endsWord c then return .inr found.reverse
    else
      skip
      let itself := more [.text quoted [c]]
      match c with
      | '\\' => do more (← escaped quoting)
      | '\'' => if quoted then itself else do more (← singleQuoted)
      | '"' =>
        if quoting = .marks then return .inr found.reverse
        else if isMarkedBraces then return .inl { stretch with marked := !stretch.marked }
        else if quoted then itself
        else do more (← doubleQuoted inner)
      | '$' => if quoting = .delimiter then itself else do more [← dollar inner quoting]
      | '\x60' =>
        if quoting = .delimiter then itself else do more [← backquotedCommand inner quoting]
      | '}' => if isBraces && !stretch.marked then return .inr found.reverse else itself
      | '(' =>
        return .inl
          { stretch with parts := .text quoted ['('] :: found, brackets := stretch.brackets + 1 }
      | ')' =>
        if quoting = .arithmetic ∧ stretch.brackets = 0 then
          if ← skipIf ')' then return .inr found.reverse else itself
        else
          return .inl
            { stretch with parts := .text quoted [')'] :: found, brackets := stretch.brackets - 1 }
      | _ => do
        if c == '\n' then countLine
        itself

def partsOf (inner : Nested) (quoting : Quoting) : Parse (List Part) := do
  return joinTexts (← iterate (nextPart inner quoting) inner.turns {})

end Nested

end OcamlAssist.Script
