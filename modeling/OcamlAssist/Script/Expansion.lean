-- Expansion of words: tildes, parameters, arithmetic, and what commands write.
-- What nests is left to the runner.
import OcamlAssist.Script.Arithmetic
import OcamlAssist.Script.Fields

namespace OcamlAssist.Script

open OcamlAssist.Text

/-! ## Runners -/

/-- What a word is expanded for. -/
structure Purpose where
  cuts : Bool := false
  inBraces : Bool := false
  tilde : Bool := true
  assigns : Bool := false

/-- What may nest in a run: commands, words, and scripts. Whether the status of a command is
tested is told along with it. -/
structure Runner where
  turns : Nat
  run : Command → (tested : Bool) → Eval Nat
  expand : Purpose → List Part → Eval (List Piece)
  script : ByteText → (tested : Bool) → Eval Nat
  program : ByteText → List ByteText → Eval Nat

namespace Runner

/-! ## Processes inside -/

/-- What a process that dies of a signal leaves to read. -/
def deathNote (signal : Nat) : String :=
  match signal with
  | 1 => "Hangup\n"
  | 3 => "Quit\n"
  | 4 => "Illegal instruction\n"
  | 5 => "Trace/breakpoint trap\n"
  | 6 => "Aborted\n"
  | 7 => "Bus error\n"
  | 8 => "Floating point exception\n"
  | 9 => "Killed\n"
  | 10 => "User defined signal 1\n"
  | 11 => "Segmentation fault\n"
  | 12 => "User defined signal 2\n"
  | 14 => "Alarm clock\n"
  | 15 => "Terminated\n"
  | _ => ""

/-- Signals that do nothing unless there is a trap for them. -/
def isHarmless (signal : Nat) : Bool := [17, 18, 23, 28].contains signal

def take (signal : Nat) : Eval Unit := do
  let p ← process
  match (p.traps.lookup signal).filter fun _ => signal != 9 with
  | some action =>
    if !action.isEmpty then change fun p => { p with pending := p.pending ++ [signal] }
  | none => if !isHarmless signal then throw (.killed signal)

def takeAll : Eval Unit := do
  let s ← get
  let (own, others) := s.world.signals.partition (·.1 == s.process.number)
  set { s with world := { s.world with signals := others } }
  own.forM fun found => take found.2

def answer (r : Runner) : Eval Unit := do
  let p ← process
  if !p.pending.isEmpty then
    change fun p => { p with pending := [] }
    p.pending.forM fun signal => do
      match p.traps.lookup signal with
      | some action => do
        let before := (← process).status
        let _ ← r.script action false
        match (← process).skip with
        | .finish true => return ()
        | _ => change fun p => { p with status := before }
      | none => return ()

def leave (r : Runner) : Eval Unit := do
  let p ← process
  match p.traps.lookup 0 with
  | some action => do
    change fun p => { p with traps := p.traps.filter (·.1 != 0), skip := .nothing }
    let _ ← r.script action false
    change fun after => { after with status := p.status }
  | none => return ()

def toEnd (r : Runner) (action : Eval Unit) : Eval (Option Nat) := do
  let finish (body : Eval Unit) : Eval (Option Nat) := tryCatch (do body; return none) fun
    | .killed signal => return some signal
    | _ => return none
  match ← finish action with
  | some signal => return some signal
  | none => finish r.leave

/-- Runs something in a process of its own, with a copy of what this process has. Gives its
status. -/
def apart (r : Runner) (noted : Bool) (prepare : Process → Process) (action : Eval Unit) :
    Eval Nat := do
  let s ← get
  let before := s.process
  let number := s.world.nextProcess
  let traps := before.traps.filter fun trap => trap.1 != 0 && trap.2.isEmpty
  set { s with
    process := prepare { before with number, traps, pending := [], jobs := [] }
    world := { s.world with nextProcess := number + 1 } }
  let death ← r.toEnd action
  let status := (← process).status % 256
  change fun _ => before
  takeAll
  match death with
  | some signal => do
    if noted then
      let _ ← writeTo 2 (deathNote signal).toList
    return 128 + signal
  | none => return status

def captured (action : Eval Unit) : Eval ByteText := do
  let s ← get
  let (channel, world) := s.world.addChannel (.pipe [] [])
  set { s with world, process := s.process.connect 1 (some ⟨channel, false, true⟩) }
  let stream := s.process.streams.lookup 1
  ensuring action (change fun p => p.connect 1 stream)
  let text := (← get).world.contents channel
  changeWorld (·.dropChannel channel)
  return text

/-! ## Tildes -/

def homeOf (name : ByteText) : Eval (Option ByteText) := do
  if name.isEmpty then return (← process).value? "HOME".toList
  else if name == "root".toList then return some "/root".toList
  else return none

def tildeAtoms (assigns isLast : Bool) (text : ByteText) : Eval (List Atom) := do
  match text with
  | '~' :: rest =>
    let ends (c : Char) : Bool := c == '/' || (assigns && c == ':')
    let name := rest.takeWhile (!ends ·)
    let behind := rest.drop name.length
    if behind.isEmpty && !isLast then return atomsOf false text
    else
      match ← homeOf name with
      | some home => return atomsOf true home ++ atomsOf false behind
      | none => return atomsOf false text
  | _ => return atomsOf false text

/-- The atoms of a text without quotes, with its tildes expanded. In the value of an assignment they
may stand at its start and behind colons. -/
def textAtoms (purpose : Purpose) (isFirst isLast : Bool) (text : ByteText) :
    Eval (List Atom) := do
  if purpose.assigns then
    let (start, value, mayStart) := match isFirst, assignment? text with
      | true, some (name, value) => (name ++ ['='], value, true)
      | _, _ => ([], text, false)
    let stretches := piecesAt ':' value
    let count := stretches.length
    let found ← (stretches.zip (List.range count)).mapM fun (stretch, place) =>
      if place = 0 && !mayStart then return atomsOf false stretch
      else tildeAtoms true (isLast || place + 1 < count) stretch
    return atomsOf false start ++ (found.intersperse [Atom.char ':' false]).flatten
  else if purpose.tilde && isFirst then tildeAtoms false isLast text
  else return atomsOf false text

/-! ## Parameters -/

/-- The atoms of all arguments, with what comes between them. -/
def argumentAtoms (cuts quoted apart : Bool) : Eval (List Atom) := do
  let p ← process
  let between : List Atom :=
    if cuts && (!quoted || apart) then
      if !quoted && p.separators?.isNone then [.char ' ' false] else [.cut]
    else
      match p.separators? with
      | none => [.char ' ' quoted]
      | some separators => atomsOf quoted (separators.take 1)
  return ((p.arguments.words.map (atomsOf quoted)).intersperse between).flatten

def parameterAtoms (cuts quoted : Bool) (name : ByteText) : Eval (Option (List Atom)) := do
  let p ← process
  let number (n : Int) : Option (List Atom) := some (atomsOf quoted (numeral n))
  match name with
  | ['$'] => return number p.rootNumber
  | ['?'] => return number p.status
  | ['#'] => return number p.arguments.words.length
  | ['!'] => return p.background.bind fun n => number n
  | ['-'] =>
    let letters := "pubaCEVvxsnmiIfe".toList
    return some (atomsOf quoted (letters.filter p.options.contains))
  | ['@'] => return some (← argumentAtoms cuts quoted true)
  | ['*'] => return some (← argumentAtoms cuts quoted false)
  | name =>
    if isDigits name then
      let place := decimal name
      let word := if place = 0 then some p.name else p.arguments.words[place - 1]?
      return word.map (atomsOf quoted)
    else return (p.value? name).map (atomsOf quoted)

def valuePiece (quoted : Bool) (name : ByteText) (atoms : List Atom) : Eval (List Piece) := do
  if !quoted then return [⟨atoms, .words⟩]
  else if name == ['@'] && !(← process).arguments.words.isEmpty then
    return [⟨atoms, .arguments⟩]
  else return [⟨atoms, .never⟩]

def missing {α : Type} (name : ByteText) (what : ByteText) : Eval α :=
  fault (name ++ [':', ' '] ++ what)

def parameterPieces (r : Runner) (purpose : Purpose) (quoted : Bool) (name : ByteText)
    (use : ParameterUse) (word : List Part) : Eval (List Piece) := do
  let value ← parameterAtoms purpose.cuts quoted name
  let present (colon : Bool) : Option (List Atom) :=
    value.filter fun atoms => !(colon && atoms.isEmpty)
  let plain : Eval ByteText := do return textOf (atomsIn (← r.expand {} word))
  let needed : Eval (List Atom) :=
    match value with
    | some atoms => return atoms
    | none => do
      if (← process).has 'u' then missing name "parameter not set".toList
      return []
  let nested : Eval (List Piece) := r.expand { cuts := purpose.cuts, inBraces := true } word
  match use with
  | .unknown => fault "Bad substitution".toList
  | .value _ => do
    let pieces ← valuePiece quoted name (← needed)
    if word.isEmpty then return pieces else return pieces ++ (← nested)
  | .length => do return [⟨atomsOf quoted (numeral (← needed).length), if quoted then .never else .words⟩]
  | .orElse colon =>
    match present colon with
    | some atoms => valuePiece quoted name atoms
    | none => nested
  | .instead colon =>
    match present colon with
    | some _ => nested
    | none => valuePiece quoted name []
  | .assigned colon =>
    match present colon with
    | some atoms => valuePiece quoted name atoms
    | none => do
      assign name (← plain)
      valuePiece quoted name ((← parameterAtoms purpose.cuts quoted name).getD [])
  | .demanded colon =>
    match present colon with
    | some atoms => valuePiece quoted name atoms
    | none =>
      if word.isEmpty then
        missing name (if colon then "parameter not set or null" else "parameter not set").toList
      else do missing name (← plain)
  | .trimmed atEnd longest => do
    let atoms ← needed
    let pattern := patternOf (atomsIn (← r.expand {} word))
    let text := atoms.filterMap fun
      | .char c _ => some c
      | .cut => some '\x00'
      | .mark => none
    let kept := if atEnd then Pattern.trimEnd longest pattern text
      else Pattern.trimStart longest pattern text
    valuePiece quoted name (kept.map fun c => if c == '\x00' then .cut else .char c quoted)

/-! ## Arithmetic and commands -/

def calculate (text : ByteText) : Eval Int := do
  let p ← process
  let isReadOnly (name : ByteText) : Bool := (p.named? name).any (·.readOnly)
  match Arithmetic.evaluate (fun name => (p.value? name).getD []) isReadOnly text with
  | .ok (value, assigned) => do
    assigned.reverse.forM fun (name, value) => assign name (numeral value)
    return value
  | .error (.bad cause) =>
    fault (ofString "arithmetic expression: " ++ cause.toList ++ [':', ' ', '"'] ++ text ++ ['"'])
  | .error (.badNumber text) => badNumber text
  | .error (.readOnly name) => fault (name ++ ofString ": is read only")

/-- What a command writes, without the ends of lines at its end. -/
def output (r : Runner) (body : Command) : Eval ByteText := do
  let text ← captured do
    let status ← r.apart true id do
      let _ ← r.run body false
    change fun p => { p with status, wordStatus := status }
  return (text.reverse.dropWhile (· == '\n')).reverse.filter (· != '\x00')

/-! ## Words -/

def partPieces (r : Runner) (purpose : Purpose) (isFirst isLast : Bool) (part : Part) :
    Eval (List Piece) := do
  let splitting (quoted : Bool) : Splitting := if quoted then .never else .words
  match part with
  | .text true chars => return [⟨atomsOf true chars, .never⟩]
  | .text false chars => do
    let atoms ← textAtoms purpose isFirst isLast chars
    return [⟨atoms, if purpose.inBraces then .words else .never⟩]
  | .mark => return [⟨[.mark], .never⟩]
  | .parameter quoted name use word => r.parameterPieces purpose quoted name use word
  | .arithmetic quoted parts => do
    let text := textOf (atomsIn (← r.expand { tilde := false } parts))
    return [⟨atomsOf quoted (numeral (← calculate text)), splitting quoted⟩]
  | .output quoted body => do
    return [⟨atomsOf quoted (← r.output body), splitting quoted⟩]

def wordPieces (r : Runner) (purpose : Purpose) : (isFirst : Bool) → List Part → Eval (List Piece)
  | _, [] => return []
  | isFirst, part :: rest => do
    let found ← r.partPieces purpose isFirst rest.isEmpty part
    return found ++ (← wordPieces r purpose false rest)

def text (r : Runner) (word : List Part) : Eval ByteText := do
  return textOf (atomsIn (← r.expand {} word))

def fields (r : Runner) (word : List Part) : Eval (List ByteText) := do
  let pieces ← r.expand { cuts := true } word
  let s ← get
  let separators := s.process.separators?.getD [' ', '\t', '\n']
  let found := fieldsOf separators none pieces
  if s.process.has 'f' then return found.map textOf
  else return found.flatMap (filesOf s.world.files s.process.folder)

def allFields (r : Runner) : List (List Part) → Eval (List ByteText)
  | [] => return []
  | word :: rest => do
    let found ← r.fields word
    return found ++ (← allFields r rest)

def assignment (r : Runner) (word : List Part) : Eval ByteText := do
  return textOf (atomsIn (← r.expand { assigns := true } word))

end Runner

end OcamlAssist.Script
