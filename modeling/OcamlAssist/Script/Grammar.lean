-- Reading commands. A script is read one complete command at a time, up to the
-- end of a line on which nothing is left open, so that what a command does may
-- bear on how the next one is read.
import OcamlAssist.Script.Word

namespace OcamlAssist.Script

namespace Nested

open Parse

/-! ## Here-documents -/

/-- The first line of a text with its end, and what follows. Where lines may be joined, a backslash
at the end of a line adds the next one. -/
def documentLine (joins : Bool) : ByteText → ByteText × ByteText
  | [] => ([], [])
  | '\n' :: rest => (['\n'], rest)
  | '\\' :: c :: rest =>
    if joins then
      let (line, rest) := documentLine joins rest
      ('\\' :: c :: line, rest)
    else
      let (line, rest) := documentLine joins (c :: rest)
      ('\\' :: line, rest)
  | c :: rest =>
    let (line, rest) := documentLine joins rest
    (c :: line, rest)

/-- The text of a here-document, and what follows the line that ends it. -/
def documentText (request : DocumentRequest) : (count : Nat) → ByteText → ByteText × ByteText
  | 0, text => ([], text)
  | count + 1, text =>
    let text := if request.stripsTabs then text.dropWhile (· == '\t') else text
    let (line, rest) := documentLine (!request.isLiteral) text
    if line.isEmpty || line == request.delimiter ++ ['\n'] ||
        (line == request.delimiter && rest.isEmpty) then ([], rest)
    else
      let (lines, rest) := documentText request count rest
      (line ++ lines, rest)

def readDocuments (inner : Nested) : Parse Unit :=
  iterate (fun () => do
    let s ← get
    match s.requests with
    | [] => return .inr ()
    | request :: requests =>
      let (text, rest) := documentText request (s.text.length + 1) s.text
      let lines := s.text.count '\n' - rest.count '\n'
      let parts ← if request.isLiteral then pure [.text true text]
        else within text s.line (inner.parts .document)
      modify fun s => { s with
        text := rest
        line := s.line + lines
        requests
        documents := (request.number, parts) :: s.documents }
      return .inl ()) inner.turns ()

/-! ## Tokens -/

/-- Two signs, if the second one follows at once, or else the first one. -/
def oneOrTwo (first : Char) : Parse Token := do
  skip
  if ← skipIf first then settle (.sign (String.ofList [first, first]))
  else settle (.sign (String.ofList [first]))

def redirectionSigns : Parse String := do
  let c ← peekJoined
  skip
  let following (choices : List Char) : Parse String := do
    match ← peekJoined with
    | some next =>
      if choices.contains next then
        skip
        return String.ofList (c.toList ++ [next])
      else return String.ofList c.toList
    | none => return String.ofList c.toList
  if c == some '>' then following ['>', '|', '&']
  else
    let signs ← following ['<', '&', '>']
    if signs == "<<" then
      return if ← skipIf '-' then "<<-" else signs
    else return signs

/-- A word, or a redirection that may have the number of a stream in front of it. -/
def wordToken (inner : Nested) (quoting : Quoting) : Parse Token := do
  let parts ← inner.parts quoting
  match ← peek, parts with
  | some '<', [] => settle (.redirection 0 (← redirectionSigns))
  | some '>', [] => settle (.redirection 1 (← redirectionSigns))
  | some c, [.text false [digit]] =>
    if (c == '<' || c == '>') && digit.isDigit then
      settle (.redirection (digit.toNat - '0'.toNat) (← redirectionSigns))
    else settle (.word parts)
  | _, parts => settle (.word parts)

def scan (inner : Nested) (quoting : Quoting) : Parse Token :=
  iterate (fun () => do
    match ← peekJoined with
    | none => return .inr (← settle .endOfText)
    | some ' ' => skip; return .inl ()
    | some '\t' => skip; return .inl ()
    | some '#' => do
      let _ ← run (· != '\n')
      return .inl ()
    | some '\n' => do
      skip
      countLine
      return .inr (← settle .newline)
    | some '(' => skip; return .inr (← settle (.sign "("))
    | some ')' => skip; return .inr (← settle (.sign ")"))
    | some '&' => return .inr (← oneOrTwo '&')
    | some '|' => return .inr (← oneOrTwo '|')
    | some ';' => return .inr (← oneOrTwo ';')
    | some _ => return .inr (← wordToken inner quoting)) inner.turns ()

def openAlias (name value : ByteText) : Parse Unit := modify fun s =>
  if value.isEmpty then s
  else
    { s with
      text := value
      frames := ⟨name, value.getLast?.any isGap, s.text⟩ :: s.frames }

def next (inner : Nested) (expected : Expected) : Parse Token :=
  iterate (fun () => do
    let token ← do
      let s ← get
      if s.held then settle s.last else scan inner .bare
    match token with
    | .newline =>
      if expected.newlines then
        readDocuments inner
        return .inl ()
      else return .inr token
    | .word parts => do
      let s ← get
      let aliased := expected.aliases || s.reopened
      set { s with reopened := false }
      match plain? parts with
      | none => return .inr token
      | some text =>
        if expected.keywords && Token.keywords.contains (shown text) then
          return .inr (← settle (.keyword (shown text)))
        else if aliased && !s.frames.any (·.name == text) then
          match s.aliases.lookup text with
          | some value => do
            openAlias text value
            return .inl ()
          | none => return .inr token
        else return .inr token
    | _ => return .inr token) inner.turns ()

def need (inner : Nested) (expected : Expected) (token : Token) : Parse Unit := do
  let found ← next inner expected
  let fits := match token with
    | .sign text => found.isSign text
    | .keyword text => found.isKeyword text
    | _ => false
  if !fits then refuse (some token)

/-! ## Redirections -/

/-- The parts that stand for a word: a word, or a keyword read as text. -/
def wordOf : Token → Option (List Part)
  | .word parts => some parts
  | .keyword text => some [.text false text.toList]
  | _ => none

def redirection (inner : Nested) (stream : Nat) (signs : String) : Parse Redirection := do
  let isDocument := signs == "<<" || signs == "<<-"
  let token ← if isDocument then scan inner .delimiter else next inner {}
  match token with
  | .word parts =>
    match signs with
    | "<" => return .file stream .read parts
    | ">" => return .file stream .write parts
    | ">|" => return .file stream .overwrite parts
    | ">>" => return .file stream .append parts
    | "<>" => return .file stream .both parts
    | ">&" => return .copy stream parts
    | "<&" => return .copy stream parts
    | _ => do
      let number := (← get).nextNumber
      let request := ⟨number, literalText parts, signs == "<<-", isQuoted parts⟩
      modify fun s => { s with nextNumber := number + 1, requests := s.requests ++ [request] }
      return .document stream number
  | _ => refuse none

def redirections (inner : Nested) : Parse (List Redirection) :=
  iterate (fun (found : List Redirection) => do
    match ← next inner .command with
    | .redirection stream signs => do
      let one ← redirection inner stream signs
      return .inl (found ++ [one])
    | _ => do
      putBack
      return .inr found) inner.turns []

/-! ## Simple commands and functions -/

structure Draft where
  assignments : List (List Part) := []
  words : List (List Part) := []
  redirections : List Redirection := []

def functionBody (inner : Nested) (name : List Part) : Parse Command := do
  need inner {} (.sign ")")
  let isSpecialName (name : ByteText) : Bool :=
    ["break", "continue", "eval", "exec", "exit", "export", "local", "readonly", "return", "set",
      "shift", "times", "trap", "unset"].contains (shown name)
  match plain? name with
  | some name =>
    if !isName name || isSpecialName name then fail .badFunctionName
    else return .function name (← inner.command .anywhere)
  | none => fail .badFunctionName

def simple (inner : Nested) : Parse Command := do
  let line := (← get).line
  iterate (fun (draft : Draft) => do
    let early := draft.words.isEmpty
    match ← next inner { aliases := early } with
    | .word parts =>
      return .inl (if early && isAssignment parts
        then { draft with assignments := draft.assignments ++ [parts] }
        else { draft with words := draft.words ++ [parts] })
    | .redirection stream signs => do
      let one ← redirection inner stream signs
      return .inl { draft with redirections := draft.redirections ++ [one] }
    | token =>
      match draft with
      | ⟨[], [name], []⟩ =>
        if token.isSign "(" then return .inr (← functionBody inner name)
        else finished line draft
      | draft => finished line draft) inner.turns {}
where
  finished (line : Nat) (draft : Draft) : Parse (Draft ⊕ Command) := do
    putBack
    return .inr (.simple line draft.assignments draft.words draft.redirections)

/-! ## Structures -/

/-- What follows a condition and its body: more of them, a last body, or nothing. -/
def otherwise (inner : Nested) : Parse Command := do
  let branches ← iterate (fun (found : List (Command × Command)) => do
    if (← next inner {}).isKeyword "elif" then
      let condition ← inner.commands .body
      need inner {} (.keyword "then")
      let body ← inner.commands .body
      return .inl ((condition, body) :: found)
    else return .inr found) inner.turns []
  let last ← if (← get).last.isKeyword "else" then inner.commands .body
    else do
      putBack
      pure .nothing
  return branches.foldl (fun last (condition, body) => .choice condition body last) last

def choice (inner : Nested) : Parse Command := do
  let condition ← inner.commands .body
  need inner {} (.keyword "then")
  let body ← inner.commands .body
  let last ← otherwise inner
  need inner {} (.keyword "fi")
  return .choice condition body last

def loop (inner : Nested) (wanted : Bool) : Parse Command := do
  let condition ← inner.commands .body
  need inner {} (.keyword "do")
  let body ← inner.commands .body
  need inner {} (.keyword "done")
  return .loop wanted condition body

/-- The words that a loop goes through. Without any it goes through the arguments. -/
def loopWords (inner : Nested) : Parse (List (List Part)) := do
  if (← next inner .anywhere).isKeyword "in" then
    let words ← iterate (fun (found : List (List Part)) => do
      match ← next inner {} with
      | .word parts => return .inl (found ++ [parts])
      | _ => return .inr found) inner.turns []
    match (← get).last with
    | .newline => return words
    | .sign ";" => return words
    | _ => refuse none
  else
    if !(← get).last.isSign ";" then putBack
    return [[allArguments]]

def each (inner : Nested) (line : Nat) : Parse Command := do
  let name ← match ← next inner {} with
    | .word parts => pure ((plain? parts).filter isName)
    | _ => pure none
  match name with
  | none => fail .badLoopName
  | some name => do
    let words ← loopWords inner
    need inner .anywhere (.keyword "do")
    let body ← inner.commands .body
    need inner {} (.keyword "done")
    return .each line name words body

/-- The patterns of an arm of a choice, the first one of which starts with a token. -/
def patterns (inner : Nested) (first : Token) : Parse (List (List Part)) :=
  iterate (fun (found, (token : Token)) => do
    let found := found ++ [(wordOf token).getD []]
    if (← next inner {}).isSign "|" then return .inl (found, ← next inner {})
    else if (← get).last.isSign ")" then return .inr found
    else refuse (some (.sign ")"))) inner.turns ([], first)

def cases (inner : Nested) (line : Nat) : Parse Command := do
  match ← next inner {} with
  | .word subject => do
    need inner .anywhere (.keyword "in")
    let arms ← iterate (fun (found : List (List (List Part) × Command)) => do
      let token ← next inner ⟨true, false, true⟩
      if token.isKeyword "esac" then return .inr found
      else
        let first ← if token.isSign "(" then next inner {} else pure token
        let fitting ← patterns inner first
        let body ← inner.commands .maybeEmpty
        let found := found ++ [(fitting, body)]
        let token ← next inner ⟨true, false, true⟩
        if token.isKeyword "esac" then return .inr found
        else if token.isSign ";;" then return .inl found
        else refuse (some (.sign ";;"))) inner.turns []
    return .cases line subject arms
  | _ => refuse (some (.word []))

def withRedirections (inner : Nested) (line : Nat) (body : Command) : Parse Command := do
  let found ← redirections inner
  if found.isEmpty then return body
  else
    match body with
    | .subshell line body _ => return .subshell line body found
    | body => return .redirected line body found

def commandOf (inner : Nested) (expected : Expected) : Parse Command := do
  let line := (← get).line
  let token ← next inner expected
  match token with
  | .word _ => do
    putBack
    simple inner
  | .redirection _ _ => do
    putBack
    simple inner
  | .sign "(" => do
    let body ← inner.commands .body
    need inner {} (.sign ")")
    withRedirections inner line (.subshell line body [])
  | .keyword "\x7b" => do
    let body ← inner.commands .body
    need inner {} (.keyword "\x7d")
    withRedirections inner line body
  | .keyword "if" => do withRedirections inner line (← choice inner)
  | .keyword "while" => do withRedirections inner line (← loop inner true)
  | .keyword "until" => do withRedirections inner line (← loop inner false)
  | .keyword "for" => do withRedirections inner line (← each inner line)
  | .keyword "case" => do withRedirections inner line (← cases inner line)
  | _ => refuse none

/-! ## Lists -/

def pipeline (inner : Nested) (expected : Expected) : Parse Command := do
  let negated := (← next inner expected).isKeyword "!"
  if !negated then putBack
  let first ← inner.command (if negated then .command else {})
  let stages ← iterate (fun (found : List Command) => do
    if (← next inner {}).isSign "|" then return .inl (found ++ [← inner.command .anywhere])
    else
      putBack
      return .inr found) inner.turns [first]
  let whole := match stages with
    | [one] => one
    | stages => .pipeline stages
  return if negated then .not whole else whole

def conditions (inner : Nested) : Parse Command := do
  let first ← pipeline inner {}
  iterate (fun (left : Command) => do
    let token ← next inner {}
    if token.isSign "&&" then return .inl (.andThen left (← pipeline inner .anywhere))
    else if token.isSign "||" then return .inl (.orElse left (← pipeline inner .anywhere))
    else
      putBack
      return .inr left) inner.turns first

/-- One command after another, if there is another. -/
def andThen : Command → Command → Command
  | .nothing, second => second
  | first, second => .sequence first second

def commandsOf (inner : Nested) (kind : ListKind) : Parse Command :=
  iterate (fun ((found, mayEnd) : Command × Bool) => do
    let token ← next inner ⟨true, true, kind != .line⟩
    match token with
    | .newline => do
      readDocuments inner
      return .inr found
    | .endOfText => atEnd found
    | token => do
      putBack
      if mayEnd && token.endsList then return .inr found
      let one ← conditions inner
      let ending ← next inner {}
      let found := andThen found (if ending.isSign "&" then .background one else one)
      let mayEnd := kind != .line
      match ending with
      | .endOfText => atEnd found
      | .newline => do
        putBack
        return .inl (found, mayEnd)
      | .sign "&" => return .inl (found, mayEnd)
      | .sign ";" => return .inl (found, mayEnd)
      | _ => do
        if kind = .line then refuse none
        putBack
        return .inr found) inner.turns
    ((.nothing, kind == .maybeEmpty) : Command × Bool)
where
  atEnd (found : Command) : Parse ((Command × Bool) ⊕ Command) := do
    readDocuments inner
    let _ ← settle .endOfText
    putBack
    return .inr found

end Nested

/-! ## Scripts -/

mutual

/-- Reads the parts of a word, no more than `depth` structures deep. -/
def readParts : (depth : Nat) → Quoting → Parse (List Part)
  | 0, _ => Parse.fail .tooDeep
  | depth + 1, quoting =>
    Nested.partsOf ⟨depth, readParts depth, readCommand depth, readCommands depth⟩ quoting

def readCommand : (depth : Nat) → Expected → Parse Command
  | 0, _ => Parse.fail .tooDeep
  | depth + 1, expected =>
    Nested.commandOf ⟨depth, readParts depth, readCommand depth, readCommands depth⟩ expected

def readCommands : (depth : Nat) → ListKind → Parse Command
  | 0, _ => Parse.fail .tooDeep
  | depth + 1, kind =>
    Nested.commandsOf ⟨depth, readParts depth, readCommand depth, readCommands depth⟩ kind

end

/-- Reads the next complete command of a script. At the end of the script there is none. -/
def Source.next? (source : Source) (depth : Nat) : Except SyntaxFault (Option Command × Source) := do
  let start := { source with held := false, requests := [] }
  let (command, after) ← readCommands depth .line start
  match command, after.last with
  | .nothing, .endOfText => return (none, after)
  | command, _ => return (some command, after)

end OcamlAssist.Script
