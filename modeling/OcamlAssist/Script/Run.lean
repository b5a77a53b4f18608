-- Running scripts. A script may run for ever, so a run has a number of turns,
-- and what it has not done when they are used up stays undone.
import OcamlAssist.Machine.Basic
import OcamlAssist.Script.Builtin.Table
import OcamlAssist.Script.Grammar
import OcamlAssist.Script.Interpreter

namespace OcamlAssist.Script

open OcamlAssist.Text

namespace Runner

/-! ## Redirections -/

inductive Lead where
  | file (stream : Nat) (use : FileUse) (path : ByteText)
  | copy (stream source : Nat)
  | closed (stream : Nat)
  | text (stream : Nat) (text : ByteText)

def leadOf (r : Runner) : Redirection → Eval Lead
  | .file stream use path => do return .file stream use (← r.text path)
  | .copy stream source => do
    match ← r.text source with
    | ['-'] => return .closed stream
    | [digit] =>
      if digit.isDigit then return .copy stream (digit.toNat - '0'.toNat) else badStream
    | _ => badStream
  | .document stream number => do
    let parts := ((← get).world.documents.lookup number).getD []
    return .text stream (textOf (atomsIn (← r.expand { tilde := false } parts)))
where
  badStream : Eval Lead := do
    change fun p => { p with line := p.readLine }
    fault (ofString "Syntax error: Bad fd number")

def streamPath? (path : ByteText) : Option Nat :=
  match String.ofList path with
  | "/dev/stdin" => some 0
  | "/dev/stdout" => some 1
  | "/dev/stderr" => some 2
  | _ => (after? "/dev/fd/".toList path).bind fun digits =>
    if isDigits digits then some (decimal digits) else none

def openFile (use : FileUse) (path : ByteText) : Eval Stream := do
  let s ← get
  let refuse (reason : FileFault) : Eval Stream :=
    if use = .read then
      fault (ofString "cannot open " ++ path ++ ofString ": " ++ faultText "No such file" reason)
    else
      fault (ofString "cannot create " ++ path ++ ofString ": " ++
        faultText "Directory nonexistent" reason)
  let opened (channel : Channel) : Eval Stream := do
    let s ← get
    let (number, world) := s.world.addChannel channel
    set { s with world }
    return ⟨number, use = .read || use = .both, use ≠ .read⟩
  match streamPath? path with
  | some number =>
    match s.process.streams.lookup number with
    | some stream => return stream
    | none => refuse .missing
  | none =>
    match s.world.files.resolve s.process.folder (pathOf path) with
    | .error reason => refuse reason
    | .ok place =>
      let write (bytes : Bytes) (executable : Bool) : Eval Stream := do
        changeWorld fun w => { w with files := w.files.put place (.file bytes executable w.now) }
        opened (.file place 0 (use = .append))
      match s.world.files.node? place, use with
      | some (.device .null _), _ => opened .nothing
      | some (.device .full _), _ => opened .full
      | some (.device .terminal _), _ => refuse .noDevice
      | some (.folder _), .read => opened .nothing
      | some (.folder _), _ => refuse .isFolder
      | some (.file _ _ _), .read => opened (.file place 0 false)
      | some (.file _ _ _), .both => opened (.file place 0 false)
      | some (.file _ _ _), .append => opened (.file place 0 true)
      | some (.file _ executable _), .overwrite => write [] executable
      | some (.file _ executable _), .write =>
        if s.process.has 'C' then refuse .taken else write [] executable
      | none, .read => refuse .missing
      | none, _ =>
        match s.world.files.node? place.dropLast with
        | some (.folder _) => write [] false
        | _ => refuse .missing

def follow : Lead → Eval Unit
  | .file stream use path => do
    let found ← openFile use path
    change fun p => p.connect stream (some found)
  | .copy stream source => do
    match (← process).streams.lookup source with
    | some found => change fun p => p.connect stream (some found)
    | none => fault (numeral source ++ ofString ": Bad file descriptor")
  | .closed stream => change fun p => p.connect stream none
  | .text stream text => do
    let s ← get
    let (channel, world) := s.world.addChannel (.pipe text [])
    set { s with world, process := s.process.connect stream (some ⟨channel, true, false⟩) }

def redirect (r : Runner) (redirections : List Redirection) : Eval Bool := do
  let leads ← redirections.mapM r.leadOf
  tryCatch (do leads.forM follow; return true) fun
    | .fault => return false
    | stop => throw stop

def restoring {α : Type} (action : Eval α) : Eval α := do
  let streams := (← process).streams
  ensuring action (change fun p => { p with streams })

/-! ## Simple commands -/

/-- The start of a simple command: its fields so far, and the words that are not expanded yet. -/
structure Head where
  fields : List ByteText
  words : List (List Part)
  /-- Whether functions do not count. -/
  wrapped : Bool := false

def headOf (r : Runner) : List (List Part) → Eval Head
  | [] => return ⟨[], [], false⟩
  | word :: words => do
    match ← r.fields word with
    | [] => headOf r words
    | fields => return ⟨fields, words, false⟩

def filled (r : Runner) (head : Head) : Eval Head := do
  if head.fields.isEmpty then return { ← r.headOf head.words with wrapped := head.wrapped }
  else return head

/-- The head behind the options of a wrapper; nothing if it does not just run a command. The fields
that were passed over are kept for that case. -/
def behindOptions (r : Runner) : (count : Nat) → (passed : List ByteText) → Head →
    Eval (Except Head Head)
  | 0, passed, head => return .error { head with fields := passed ++ head.fields }
  | count + 1, passed, head => do
    let head ← r.filled head
    match head.fields with
    | [] => return .error { head with fields := passed }
    | ['-', '-'] :: fields => do
      let head ← r.filled { head with fields }
      if head.fields.isEmpty then return .error { head with fields := passed ++ [['-', '-']] }
      else return .ok { head with wrapped := true }
    | ('-' :: 'p' :: letters) :: fields =>
      if letters.all (· == 'p') then
        behindOptions r count (passed ++ ['-' :: 'p' :: letters]) { head with fields }
      else return .error { head with fields := passed ++ head.fields }
    | ('-' :: _ :: _) :: _ => return .error { head with fields := passed ++ head.fields }
    | _ => return .ok { head with wrapped := true }

def unwrapped (r : Runner) : (count : Nat) → Head → Eval Head
  | 0, head => return head
  | count + 1, head => do
    match head.fields with
    | [] => return head
    | name :: fields =>
      let isFunction := !head.wrapped && (← process).functions.any (·.1 == name)
      match Builtin.find? name with
      | some ⟨_, .wrapper, _, _⟩ =>
        if isFunction then return head
        else
          match ← r.behindOptions r.turns [name] { head with fields } with
          | .ok inner => unwrapped r count inner
          | .error whole => return { whole with wrapped := head.wrapped }
      | _ => return head

inductive Target where
  | nothing
  | function (body : Command)
  | builtin (found : Builtin)
  | program (path : ByteText)
  | missing (reason : FileFault)

def targetOf (head : Head) : Eval Target := do
  match head.fields with
  | [] => return .nothing
  | name :: _ => do
    let s ← get
    match if head.wrapped then none else s.process.functions.lookup name with
    | some body => return .function body
    | none =>
      match Builtin.find? name with
      | some found => return .builtin found
      | none =>
        match Builtin.findProgram s name with
        | .ok path => return .program path
        | .error reason => return .missing reason

def trace (r : Runner) (stream : Option Stream) (words : List ByteText) : Eval Unit := do
  let p ← process
  if p.has 'x' then
    let sign := (p.value? "PS4".toList).getD []
    let shown ← match readParts r.turns .document { text := sign } with
      | .ok (parts, _) => do pure (textOf (atomsIn (← r.expand { tilde := false } parts)))
      | .error _ => pure sign
    match stream with
    | some stream => changeWorld (·.put stream.channel (shown ++ join [' '] words ++ ['\n']))
    | none => return ()

def callFunction (r : Runner) (tested : Bool) (body : Command) (args : List ByteText) :
    Eval Nat := do
  let before ← process
  change fun p => { p with arguments := { words := args }, loops := 0 }
  ensuring (do let _ ← r.run body tested) (change fun p => { p with
    arguments := before.arguments
    loops := before.loops
    skip := match p.skip with
      | .finish _ => .nothing
      | skip => skip })
  return (← process).status

/-- Carries out a command of the shell. A fault in one that is not special does not go further. -/
def callBuiltin (r : Runner) (tested isSpecial : Bool) (found : Builtin) (name : ByteText)
    (args : List ByteText) : Eval Nat := do
  let complainer := (← process).complainer
  change fun p => { p with complainer := some name }
  let action := ensuring (found.action r ⟨args, tested⟩) (change fun p => { p with complainer })
  if isSpecial then action
  else tryCatch action fun
    | .fault => return (← process).status
    | stop => throw stop

def call (r : Runner) (tested isSpecial : Bool) (target : Target) (fields : List ByteText) :
    Eval Nat := do
  let name := fields.headD []
  let args := fields.tail
  match target with
  | .nothing => return (← process).wordStatus
  | .function body => r.callFunction tested body args
  | .builtin found => r.callBuiltin tested isSpecial found name args
  | .program path => r.apart true id do
    let status ← r.program path fields
    change fun p => { p with status }
  | .missing reason => do
    complain (name ++ [':', ' '] ++ faultText "not found" reason)
    return 127

/-- Carries out an assignment in front of a command: for good, or for the command alone. -/
def assignFor (isLocal exports : Bool) (text : ByteText) : Eval Unit := do
  match assignment? text with
  | some (name, value) =>
    if isLocal then
      keepVariable name
      changeVariable name fun v => { v with value := some value, exported := true }
    else
      assign name value
      if exports then changeVariable name fun v => { v with exported := true }
  | none => return ()

def simple (r : Runner) (tested : Bool) (line : Nat) (assignments words : List (List Part))
    (redirections : List Redirection) : Eval Nat := do
  change fun p => { p with line, wordStatus := 0 }
  let head ← r.unwrapped r.turns (← r.headOf words)
  let target ← targetOf head
  let found : Option Builtin := match target with
    | .builtin found => some found
    | _ => none
  let takesAssignments := found.any (·.assigns)
  let rest ← head.words.mapM fun word =>
    if takesAssignments && isAssignment word then return [← r.assignment word]
    else r.fields word
  let fields := head.fields ++ rest.flatten
  let isSpecial := !head.wrapped && found.any (·.kind = .special)
  let isExec := found.any (·.name == "exec")
  let isLocal := !isSpecial && !fields.isEmpty
  let before ← process
  let stream := before.streams.lookup 2
  if isLocal then openScope
  ensuring (do
    if !(← r.redirect redirections) then
      if isSpecial then throw .fault
      change fun p => { p with streams := before.streams }
      return 2
    let texts ← assignments.mapM fun word => do
      let text ← r.assignment word
      assignFor isLocal (isExec && 1 < fields.length) text
      return text
    r.trace stream (texts ++ fields)
    let target ← match target with
      | .missing _ => targetOf head
      | .program _ => targetOf head
      | target => pure target
    let status ← r.call tested isSpecial target fields
    if !isExec then change fun p => { p with streams := before.streams }
    return status) (if isLocal then closeScope else return ())

/-! ## Structures -/

inductive Turn where
  | whole
  /-- Something in it was passed over, but the loop goes on. -/
  | cut
  | last
  deriving DecidableEq

/-- How a turn of a loop has ended, with what outer loops are to pass over. -/
def turnEnd : Eval Turn := do
  let leave (turn : Turn) (skip : Skip) : Eval Turn := do
    change fun p => { p with skip }
    return turn
  match (← process).skip with
  | .nothing => return .whole
  | .leave (count + 2) => leave .last (.leave (count + 1))
  | .leave _ => leave .last .nothing
  | .next (count + 2) => leave .last (.next (count + 1))
  | .next _ => leave .cut .nothing
  | .finish _ => return .last

def turnAfterTurn (r : Runner) (tested wanted : Bool) (condition body : Command) :
    (count status : Nat) → Eval Nat
  | 0, status => return status
  | count + 1, status => do
    let found ← r.run condition true
    let given := match (← process).skip with
      | .finish true => true
      | _ => false
    match ← turnEnd with
    | .last => return if given then found else status
    | .cut => turnAfterTurn r tested wanted condition body count status
    | .whole =>
      if (found == 0) != wanted then return status
      else
        let status ← r.run body tested
        if (← turnEnd) = .last then return status
        else turnAfterTurn r tested wanted condition body count status

def eachOf (r : Runner) (tested : Bool) (name : ByteText) (body : Command) :
    (status : Nat) → List ByteText → Eval Nat
  | status, [] => return status
  | _, value :: values => do
    assign name value
    let status ← r.run body tested
    if (← turnEnd) = .last then return status else eachOf r tested name body status values

def inLoop (action : Eval Nat) : Eval Nat := do
  change fun p => { p with loops := p.loops + 1 }
  ensuring action (change fun p => { p with loops := p.loops - 1 })

/-- Whether a text fits one of some patterns, which are expanded one after the other. -/
def fitsAny (r : Runner) (text : ByteText) : List (List Part) → Eval Bool
  | [] => return false
  | word :: words => do
    let pattern := patternOf (atomsIn (← r.expand {} word))
    if Pattern.fits pattern text then return true else fitsAny r text words

def firstArm (r : Runner) (tested : Bool) (text : ByteText) :
    List (List (List Part) × Command) → Eval Nat
  | [] => return 0
  | (patterns, body) :: arms => do
    if ← r.fitsAny text patterns then
      match body with
      | .nothing => return 0
      | body => r.run body tested
    else firstArm r tested text arms

/-- Carries out the stages of a pipeline, the first of which reads from a channel if there is
one. -/
def stages (r : Runner) (tested : Bool) : (input : Option Nat) → List Command → Eval Nat
  | _, [] => return 0
  | input, stage :: rest => do
    let s ← get
    let (output, world) := s.world.addChannel (.pipe [] [])
    set { s with world }
    let isLast := rest.isEmpty
    let prepare (p : Process) : Process :=
      let p := match input with
        | some channel => p.connect 0 (some ⟨channel, true, false⟩)
        | none => p
      if isLast then p else p.connect 1 (some ⟨output, false, true⟩)
    let status ← r.apart true prepare do
      let _ ← r.run stage tested
    if isLast then return status else stages r tested (some output) rest

/-- Carries out a command without waiting for it. It reads nothing. -/
def aside (r : Runner) (body : Command) : Eval Nat := do
  let s ← get
  let number := s.world.nextProcess
  let (channel, world) := s.world.addChannel .nothing
  set { s with world }
  let status ← r.apart false (·.connect 0 (some ⟨channel, true, false⟩)) do
    let _ ← r.run body false
  change fun p => { p with background := some number, jobs := (number, status) :: p.jobs }
  return 0

/-- How a command ends, with whether the process takes note of that, and whether a bad end may
end the script. -/
structure Ending where
  status : Nat
  noted : Bool := true
  counts : Bool := false

def ending (r : Runner) (tested : Bool) : Command → Eval Ending
  | .nothing => return ⟨0, false, false⟩
  | .simple line assignments words redirections => do
    return ⟨← r.simple tested line assignments words redirections, true, true⟩
  | .pipeline commands => do return ⟨← r.stages tested none commands, true, true⟩
  | .background body => do return ⟨← r.aside body, true, true⟩
  | .subshell line body redirections => do
    change fun p => { p with line }
    let status ← r.apart true id do
      if ← r.redirect redirections then
        let _ ← r.run body tested
      else throw .fault
    return ⟨status, true, true⟩
  | .sequence first second => do
    let status ← r.run first tested
    match (← process).skip with
    | .nothing => return ⟨← r.run second tested, true, false⟩
    | _ => return ⟨status, false, false⟩
  | .andThen first second => do
    let status ← r.run first true
    match status, (← process).skip with
    | 0, .nothing => return ⟨← r.run second tested, true, false⟩
    | status, _ => return ⟨status, false, false⟩
  | .orElse first second => do
    let status ← r.run first true
    match status, (← process).skip with
    | status + 1, .nothing => do
      let _ := status
      return ⟨← r.run second tested, true, false⟩
    | status, _ => return ⟨status, false, false⟩
  | .not body => do
    return ⟨if (← r.run body true) = 0 then 1 else 0, true, false⟩
  | .choice condition body otherwise => do
    let status ← r.run condition true
    match (← process).skip with
    | .nothing =>
      if status = 0 then return ⟨← r.run body tested, true, false⟩
      else return ⟨← r.run otherwise tested, true, false⟩
    | _ => return ⟨status, false, false⟩
  | .loop wanted condition body => do
    return ⟨← inLoop (r.turnAfterTurn tested wanted condition body r.turns 0), true, false⟩
  | .each line name words body => do
    change fun p => { p with line }
    let values ← r.allFields words
    return ⟨← inLoop (r.eachOf tested name body 0 values), true, false⟩
  | .cases line subject arms => do
    change fun p => { p with line }
    let text ← r.text subject
    return ⟨← r.firstArm tested text arms, true, false⟩
  | .redirected line body redirections => do
    change fun p => { p with line }
    let status ← restoring do
      if ← r.redirect redirections then r.run body tested else return 2
    return ⟨status, true, false⟩
  | .function name body => do
    change fun p => { p with functions := (name, body) :: p.functions.filter (·.1 != name) }
    return ⟨0, true, false⟩

def carryOut (r : Runner) (command : Command) (tested : Bool) : Eval Nat := do
  match command with
  | .nothing => return 0
  | command => do
    if (← process).has 'n' then return 0
    r.answer
    let found ← r.ending tested command
    if found.noted then change fun p => { p with status := found.status }
    if found.counts && !tested && found.status != 0 && (← process).has 'e' then throw .exit
    r.answer
    return found.status

/-! ## Scripts and programs -/

def commandsIn (r : Runner) (tested : Bool) : (count : Nat) → Source → (status : Nat) → Eval Nat
  | 0, _, status => return status
  | count + 1, source, status => do
    let s ← get
    let start := { source with aliases := s.process.aliases, nextNumber := s.world.nextDocument }
    match start.next? r.turns with
    | .error found => do
      change fun p => { p with line := found.line }
      fault (ofString ("Syntax error: " ++ found.cause.message))
    | .ok (none, _) => return status
    | .ok (some command, after) => do
      set { s with
        process := { s.process with readLine := after.line }
        world := { s.world with
          documents := after.documents ++ s.world.documents
          nextDocument := after.nextNumber } }
      if s.process.has 'v' then
        let _ ← writeTo 2 (source.text.take (source.text.length - after.text.length))
      let found ← r.run command tested
      let status := match command with
        | .nothing => status
        | _ => found
      match (← process).skip with
      | .nothing => commandsIn r tested count { after with documents := [] } status
      | _ => return status

def runText (r : Runner) (text : ByteText) (tested : Bool) : Eval Nat :=
  r.commandsIn tested r.turns { text := text.filter (· != '\x00') } 0

def restOf (stream : Nat) : (count : Nat) → Eval ByteText
  | 0 => return []
  | count + 1 => do
    match ← readFrom stream with
    | some c => return c :: (← restOf stream count)
    | none => return []

def start (r : Runner) (shell : ByteText) (words : List ByteText) : Eval Nat := do
  change fun p => { p with name := shell }
  let given ← setOptions true words
  let begin (name : ByteText) (words : List ByteText) (text : ByteText) : Eval Nat := do
    change fun p => { p with name, arguments := { words } }
    r.script text false
  match given.command, given.words with
  | true, [] => fault "-c requires an argument".toList
  | true, [text] => begin shell [] text
  | true, text :: name :: words => begin name words text
  | false, [] => do
    setOption 's' true
    begin shell [] (← restOf 0 r.turns)
  | false, path :: words => do
    let s ← get
    if s.process.has 's' then return ← begin shell (path :: words) (← restOf 0 r.turns)
    match s.world.files.find s.process.folder (pathOf path) with
    | .error reason =>
      fault (ofString "cannot open " ++ path ++ ofString ": " ++ faultText "No such file" reason)
    | .ok (.file bytes _ _) => begin path words (ofBytes bytes)
    | .ok _ => begin path words []

def shellPath : ByteText := "/bin/sh".toList

def beginAnew : Eval Unit := do
  let p ← process
  let kept := p.values.filter fun v => v.exported && v.value.isSome
  change fun p => { p with
    values := kept.map fun v => { v with readOnly := false }
    arguments := { words := [] }
    functions := [], aliases := [], options := [], scopes := [], jobs := []
    traps := p.traps.filter fun trap => trap.2.isEmpty
    line := 0, complainer := none, loops := 0, rootNumber := p.number
    background := none }
  let defaults : List (String × String) :=
    [("IFS", " \t\n"), ("OPTIND", "1"), ("PS1", "# "), ("PS2", "> "), ("PS4", "+ "),
      ("PPID", toString (p.number - 1))]
  defaults.forM fun (name, value) => change fun p =>
    p.putVariable { name := name.toList, value := some value.toList }
  change fun p => p.putVariable { name := "PWD".toList, value := some p.path, exported := true }

/-- Runs the program at a path in this process. What names no interpreter is a script for the
shell. -/
def runProgram (r : Runner) (path : ByteText) (words : List ByteText) : Eval Nat := do
  let s ← get
  let start (words : List ByteText) : Eval Nat := do
    beginAnew
    r.start (words.headD []) words.tail
  match shellWords s.world.files s.process.folder scriptsInRow path words with
  | .ok words => start words
  | .error .badProgram => start (shellPath :: path :: words.tail)
  | .error reason => Builtin.cannotStart (words.headD []) reason

end Runner

/-! ## Runs -/

mutual

def runCommand : (turns : Nat) → Command → (tested : Bool) → Eval Nat
  | 0, _, _ => throw .exit
  | turns + 1, command, tested =>
    Runner.carryOut
      ⟨turns, runCommand turns, expandWord turns, runText turns, runProgram turns⟩ command tested

def expandWord : (turns : Nat) → Purpose → List Part → Eval (List Piece)
  | 0, _, _ => throw .exit
  | turns + 1, purpose, word =>
    Runner.wordPieces
      ⟨turns, runCommand turns, expandWord turns, runText turns, runProgram turns⟩ purpose true word

def runText : (turns : Nat) → ByteText → (tested : Bool) → Eval Nat
  | 0, _, _ => throw .exit
  | turns + 1, text, tested =>
    Runner.runText
      ⟨turns, runCommand turns, expandWord turns, runText turns, runProgram turns⟩ text tested

def runProgram : (turns : Nat) → ByteText → List ByteText → Eval Nat
  | 0, _, _ => throw .exit
  | turns + 1, path, words =>
    Runner.runProgram
      ⟨turns, runCommand turns, expandWord turns, runText turns, runProgram turns⟩ path words

end

def runner (turns : Nat) : Runner :=
  ⟨turns, runCommand turns, expandWord turns, runText turns, runProgram turns⟩

/-- The number of turns that a run has. -/
def turnLimit : Nat := 100000

def firstProcess : Nat := 42

/-- What a program does among the files. In the end a shell has to carry it out. -/
def run (files : FileTree) (program : Program) : Except FileFault ProgramOutput := do
  let words := ofString program.path :: program.args.map ofString
  match shellWords files program.workingDir scriptsInRow (ofString program.path) words with
  | .error fault => .error fault
  | .ok _ =>
    let world : World :=
      { files
        channels := [(0, .nothing), (1, .pipe [] []), (2, .pipe [] [])]
        nextChannel := 3
        nextProcess := firstProcess + 1
        now := program.now }
    let path := '/' :: join ['/'] (program.workingDir.map ofString)
    let process : Process :=
      { name := ofString program.path
        arguments := { words := [] }
        values := program.environment.map fun (name, value) =>
          { name := ofString name, value := some (ofString value), exported := true }
        streams := [(0, ⟨0, true, false⟩), (1, ⟨1, false, true⟩), (2, ⟨2, false, true⟩)]
        folder := program.workingDir
        path
        number := firstProcess
        rootNumber := firstProcess }
    let action : Eval Unit := do
      let status ← runProgram turnLimit (ofString program.path) words
      change fun p => { p with status }
    let (_, last) := ((runner turnLimit).toEnd action).run.run { process, world }
    return {
      stdout := toBytes (last.world.contents 1)
      stderr := toBytes (last.world.contents 2)
      files := last.world.files }

end OcamlAssist.Script
