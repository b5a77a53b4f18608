-- The state of a run: the process that runs, which a subshell copies, and the
-- world around it, which all processes share. Streams lead to channels, and
-- processes that share a channel take turns at it.
import OcamlAssist.Machine.Files
import OcamlAssist.Script.Syntax

namespace OcamlAssist.Script

open OcamlAssist.Text

/-! ## The world -/

inductive Channel where
  /-- Text that is still to be read, and what was written since, the last first. -/
  | pipe (ahead behind : ByteText)
  /-- A file, with the place in it that is next, or that is always its end. -/
  | file (place : Place) (offset : Nat) (appends : Bool)
  | nothing
  | full

structure World where
  files : FileTree
  channels : List (Nat × Channel) := []
  nextChannel : Nat := 0
  documents : List (Nat × List Part) := []
  nextDocument : Nat := 0
  nextProcess : Nat
  /-- Signals that are on their way, each with the process that it goes to. -/
  signals : List (Nat × Nat) := []
  now : Nat := 0

/-! ## Processes -/

/-- A variable. It may have flags and no value. -/
structure Variable where
  name : ByteText
  value : Option ByteText := none
  exported : Bool := false
  readOnly : Bool := false

structure Stream where
  channel : Nat
  reads : Bool
  writes : Bool

/-- The arguments of a script or a function, and how far the search for options in them is. -/
structure Arguments where
  words : List ByteText
  optionIndex : Nat := 1
  optionOffset : Option Nat := none

inductive Saved where
  | variable (name : ByteText) (before : Option Variable)
  | options (before : List Char)

/-- Which commands are passed over. -/
inductive Skip where
  | nothing
  | leave (loops : Nat)
  /-- The rest of all but the outermost of so many loops, and of a turn of that one. -/
  | next (loops : Nat)
  /-- The rest of a function or a file, whose status may have been given. -/
  | finish (given : Bool)

structure Process where
  name : ByteText
  arguments : Arguments
  values : List Variable
  functions : List (ByteText × Command) := []
  aliases : List (ByteText × ByteText) := []
  options : List Char := []
  /-- What is done on signals; an empty text ignores them. -/
  traps : List (Nat × ByteText) := []
  pending : List Nat := []
  scopes : List (List Saved) := []
  streams : List (Nat × Stream)
  folder : Place
  path : ByteText
  status : Nat := 0
  /-- How the last command in a word ended. -/
  wordStatus : Nat := 0
  line : Nat := 0
  /-- The line up to which the script is read. -/
  readLine : Nat := 0
  complainer : Option ByteText := none
  /-- How many loops are around. -/
  loops : Nat := 0
  skip : Skip := .nothing
  number : Nat
  rootNumber : Nat
  background : Option Nat := none
  jobs : List (Nat × Nat) := []
  mask : Nat := 18

structure State where
  process : Process
  world : World

inductive Stop where
  | exit
  | fault
  | killed (signal : Nat)

abbrev Eval := ExceptT Stop (StateM State)

def process : Eval Process := do return (← get).process

def change (f : Process → Process) : Eval Unit := modify fun s => { s with process := f s.process }

def changeWorld (f : World → World) : Eval Unit := modify fun s => { s with world := f s.world }

/-- Does something, and something else behind it whatever happens. -/
def ensuring {α : Type} (action : Eval α) (after : Eval Unit) : Eval α := do
  let result ← tryCatch (Except.ok <$> action) fun stop => return Except.error stop
  after
  match result with
  | .ok value => return value
  | .error stop => throw stop

/-! ## Channels -/

namespace World

def setChannel (w : World) (number : Nat) (channel : Channel) : World :=
  { w with channels := (number, channel) :: w.channels.filter (·.1 != number) }

def addChannel (w : World) (channel : Channel) : Nat × World :=
  (w.nextChannel, { w.setChannel w.nextChannel channel with nextChannel := w.nextChannel + 1 })

def dropChannel (w : World) (number : Nat) : World :=
  { w with channels := w.channels.filter (·.1 != number) }

/-- The next character of a channel, and the world behind it. -/
def take (w : World) (number : Nat) : Option (Char × World) :=
  match w.channels.lookup number with
  | some (.pipe (c :: ahead) behind) => some (c, w.setChannel number (.pipe ahead behind))
  | some (.pipe [] behind) =>
    match behind.reverse with
    | c :: ahead => some (c, w.setChannel number (.pipe ahead []))
    | [] => none
  | some (.file place offset appends) =>
    match w.files.node? place with
    | some (.file bytes _ _) =>
      match bytes.drop offset with
      | byte :: _ =>
        some (Char.ofNat byte.toNat, w.setChannel number (.file place (offset + 1) appends))
      | [] => none
    | _ => none
  | _ => none

def put (w : World) (number : Nat) (text : ByteText) : World :=
  match w.channels.lookup number with
  | some (.pipe ahead behind) => w.setChannel number (.pipe ahead (text.reverse ++ behind))
  | some (.file place offset appends) =>
    match w.files.node? place with
    | some (.file bytes executable _) =>
      let offset := if appends then bytes.length else offset
      let before := bytes.take offset
      let gap := List.replicate (offset - before.length) 0
      let bytes := before ++ gap ++ toBytes text ++ bytes.drop (offset + text.length)
      let w := { w with files := w.files.put place (.file bytes executable w.now) }
      w.setChannel number (.file place (offset + text.length) appends)
    | _ => w
  | _ => w

def isFull (w : World) (number : Nat) : Bool :=
  match w.channels.lookup number with
  | some .full => true
  | _ => false

def contents (w : World) (number : Nat) : ByteText :=
  match w.channels.lookup number with
  | some (.pipe ahead behind) => ahead ++ behind.reverse
  | _ => []

end World

/-! ## Streams -/

def writeTo (stream : Nat) (text : ByteText) : Eval Bool := do
  let s ← get
  match s.process.streams.lookup stream with
  | some found =>
    if found.writes && !s.world.isFull found.channel then
      changeWorld (·.put found.channel text)
      return true
    else return text.isEmpty
  | none => return text.isEmpty

def readFrom (stream : Nat) : Eval (Option Char) := do
  let s ← get
  match s.process.streams.lookup stream with
  | some found =>
    if found.reads then
      match s.world.take found.channel with
      | some (c, world) => do
        set { s with world }
        return some c
      | none => return none
    else return none
  | none => return none

def Process.connect (p : Process) (number : Nat) (stream : Option Stream) : Process :=
  let others := p.streams.filter (·.1 != number)
  { p with streams := match stream with
    | some stream => (number, stream) :: others
    | none => others }

/-! ## Complaints -/

def complain (text : ByteText) : Eval Unit := do
  let p ← process
  let complainer := match p.complainer with
    | some name => name ++ [':', ' ']
    | none => []
  let _ ← writeTo 2 (p.name ++ [':', ' '] ++ numeral p.line ++ [':', ' '] ++ complainer ++ text ++ ['\n'])

def fault {α : Type} (text : ByteText) : Eval α := do
  complain text
  change fun p => { p with status := 2 }
  throw .fault

def badNumber {α : Type} (text : ByteText) : Eval α := fault (ofString "Illegal number: " ++ text)

def countOf (text : ByteText) : Eval Nat := if isDigits text then return decimal text else badNumber text

/-! ## Variables -/

namespace Process

def named? (p : Process) (name : ByteText) : Option Variable :=
  p.values.find? (·.name == name)

def value? (p : Process) (name : ByteText) : Option ByteText := (p.named? name).bind Variable.value

def has (p : Process) (option : Char) : Bool := p.options.contains option

def putVariable (p : Process) (v : Variable) : Process :=
  { p with values := v :: p.values.filter (·.name != v.name) }

def dropVariable (p : Process) (name : ByteText) : Process :=
  { p with values := p.values.filter (·.name != name) }

def separators? (p : Process) : Option ByteText := p.value? "IFS".toList

end Process

def changeVariable (name : ByteText) (f : Variable → Variable) : Eval Unit := do
  if !isName name then fault (name ++ ofString ": bad variable name")
  let p ← process
  let before := (p.named? name).getD { name }
  if before.readOnly then fault (name ++ ofString ": is read only")
  change (·.putVariable (f before))
  if name == "OPTIND".toList then
    let index := ((f before).value.bind (wholeNumber? false)).elim 1 Int.toNat
    change fun p =>
      { p with arguments := { p.arguments with optionIndex := max index 1, optionOffset := none } }

def assign (name value : ByteText) : Eval Unit := do
  let exports := (← process).has 'a'
  changeVariable name fun v => { v with value := some value, exported := v.exported || exports }

def unassign (name : ByteText) : Eval Unit := do
  if !isName name then fault (name ++ ofString ": bad variable name")
  match (← process).named? name with
  | some found =>
    if found.readOnly then fault (name ++ ofString ": is read only")
    change (·.dropVariable name)
  | none => return ()

def openScope : Eval Unit := change fun p => { p with scopes := [] :: p.scopes }

/-- Closes the innermost local scope, and brings back what was there before. -/
def closeScope : Eval Unit := change fun p =>
  match p.scopes with
  | [] => p
  | saved :: scopes =>
    saved.foldl (fun p one => match one with
      | .variable name none => p.dropVariable name
      | .variable _ (some before) => p.putVariable before
      | .options before => { p with options := before }) { p with scopes }

def keep (saved : Saved) : Eval Unit := change fun p =>
  match p.scopes with
  | [] => p
  | scope :: scopes => { p with scopes := (saved :: scope) :: scopes }

def keepVariable (name : ByteText) : Eval Unit := do keep (.variable name ((← process).named? name))

/-! ## Files -/

def pathOf (text : ByteText) : Path := shown text

def Process.node? (p : Process) (w : World) (path : ByteText) : Option FileNode :=
  (w.files.find p.folder (pathOf path)).toOption

/-- What a fault of a file is called. What is not there goes by the name that the matter has. -/
def faultText (missing : String) : FileFault → ByteText
  | .missing => missing.toList
  | .notFolder => missing.toList
  | .badPath => missing.toList
  | .notAllowed => "Permission denied".toList
  | .taken => "File exists".toList
  | .isFolder => "Is a directory".toList
  | .nameTooLong => "File name too long".toList
  | .noDevice => "No such device or address".toList
  | .tooManyLinks => "Too many levels of symbolic links".toList
  | .commandTooLong => "Argument list too long".toList
  | .badProgram => "Exec format error".toList
  | .badCommand => "Invalid argument".toList
  | .badText => "Invalid argument".toList
  | .notSupported => "Function not implemented".toList

end OcamlAssist.Script
