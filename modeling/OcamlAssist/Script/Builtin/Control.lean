-- Commands that bear on what runs next: loops and functions that end early,
-- traps and signals, and texts that are run as scripts.
import OcamlAssist.Script.Builtin.Places
import OcamlAssist.Script.Expansion

namespace OcamlAssist.Script.Builtin

open OcamlAssist.Text

/-! ## Ends -/

/-- The number of loops that a command is about, no more than there are. -/
def loopCount (args : List ByteText) : Eval Nat := do
  let count ← match args with
    | [] => pure 1
    | word :: _ => do
      let count ← countOf word
      if count = 0 then badNumber word
      pure count
  return min count (← process).loops

def breakCommand (args : List ByteText) : Eval Nat := do
  let count ← loopCount args
  if 0 < count then change fun p => { p with skip := .leave count }
  return 0

def continueCommand (args : List ByteText) : Eval Nat := do
  let count ← loopCount args
  if 0 < count then change fun p => { p with skip := .next count }
  return 0

def returnCommand (args : List ByteText) : Eval Nat := do
  match args with
  | [] => do
    change fun p => { p with skip := .finish false }
    return (← process).status
  | word :: _ => do
    let status ← countOf word
    change fun p => { p with skip := .finish true }
    return status

def exitCommand (args : List ByteText) : Eval Nat := do
  match args with
  | [] => throw .exit
  | word :: _ => do
    let status ← countOf word
    change fun p => { p with status }
    throw .exit

/-! ## Signals -/

/-- The names of signals, by number. The first one is the end of the process. -/
def signalNames : List String :=
  ["EXIT", "HUP", "INT", "QUIT", "ILL", "TRAP", "ABRT", "BUS", "FPE", "KILL", "USR1", "SEGV",
    "USR2", "PIPE", "ALRM", "TERM", "16", "CHLD", "CONT", "STOP", "TSTP", "TTIN", "TTOU", "URG",
    "XCPU", "XFSZ", "VTALRM", "PROF", "WINCH", "IO", "PWR", "SYS", "32", "33", "RTMIN"] ++
  ((List.range 15).map fun n => "RTMIN+" ++ toString (n + 1)) ++
  ((List.range 14).map fun n => "RTMAX-" ++ toString (14 - n)) ++ ["RTMAX"]

def signal? (least : Nat) (word : ByteText) : Option Nat :=
  if isDigits word then (some (decimal word)).filter fun n => least ≤ n && n < 65
  else
    let upper := (shown word).map Char.toUpper
    (signalNames.findIdx? (· == upper)).filter (least ≤ ·)

def trapCommand (args : List ByteText) : Eval Nat := do
  match ← withoutOptions args with
  | [] => do
    let traps := (← process).traps.mergeSort fun a b => a.1 ≤ b.1
    say (traps.flatMap fun (number, action) =>
      ofString "trap -- " ++ quotedWord action ++ ' ' :: (signalNames.getD number "").toList ++ ['\n'])
  | first :: rest => do
    let isReset := rest.isEmpty || isDigits first && (signal? 0 first).isSome
    let action := if isReset || first == ['-'] then none else some first
    install action (if isReset then first :: rest else rest)
where
  install (action : Option ByteText) : List ByteText → Eval Nat
    | [] => return 0
    | word :: rest => do
      match signal? 0 word with
      | none => do
        let _ ← writeTo 2 (ofString "trap: " ++ word ++ ofString ": bad trap\n")
        return 1
      | some number => do
        change fun p =>
          let others := p.traps.filter (·.1 != number)
          { p with traps := match action with
            | some action => (number, action) :: others
            | none => others }
        install action rest

def send (signal number : Nat) : Eval Bool := do
  let s ← get
  if number = s.process.number then
    if signal ≠ 0 then Runner.take signal
    return true
  else if s.process.rootNumber ≤ number && number < s.world.nextProcess then
    if signal ≠ 0 && number < s.process.number then
      changeWorld fun w => { w with signals := w.signals ++ [(number, signal)] }
    return true
  else return number < s.process.rootNumber && number ≠ 0 && signal = 0

def killUsage : ByteText :=
  "Usage: kill [-s sigspec | -signum | -sigspec] [pid | job]... or\nkill -l [exitstatus]".toList

def processOf (word : ByteText) : Eval Nat := do
  match word with
  | '%' :: place => do
    let jobs := (← process).jobs
    let found := if isDigits place then jobs.reverse[decimal place - 1]? else jobs.head?
    match found with
    | some (number, _) => return number
    | none => fault (ofString "No such job: " ++ word)
  | '-' :: digits => countOf digits
  | digits => countOf digits

def killCommand (args : List ByteText) : Eval Nat := do
  let (signal, lists, targets) ← match args with
    | [] => fault killUsage
    | ('-' :: name) :: rest =>
      match signal? 1 name with
      | some signal => pure (some signal, false, rest)
      | none => do
        let (options, words) ← takeOptions [('l', false), ('s', true)] args
        let signal ← match options.reverse.find? (·.letter == 's') with
          | some option =>
            match signal? 1 option.argument with
            | some signal => pure (some signal)
            | none => fault (ofString "invalid signal number or name: " ++ option.argument)
          | none => pure none
        pure (signal, options.any (·.letter == 'l'), words)
    | args => pure (none, false, args)
  if lists then
    match targets with
    | [] => say (ofString ("0\n" ++ String.join ((signalNames.drop 1).map (· ++ "\n"))))
    | word :: _ => do
      let number ← countOf word
      let number := if 128 < number then number - 128 else number
      if 0 < number && number < 65 then say ((signalNames.getD number "").toList ++ ['\n'])
      else fault (ofString "invalid signal number or exit status: " ++ word)
  else if targets.isEmpty then fault killUsage
  else
    let found ← targets.mapM fun word => do
      if ← send (signal.getD 15) (← processOf word) then return true
      else
        complain "No such process\n".toList
        return false
    return if found.all id then 0 else 1

/-! ## Processes -/

/-- Waits for processes, which have all ended, and gives how the last one ended. -/
def waitCommand (args : List ByteText) : Eval Nat := do
  match ← withoutOptions args with
  | [] => return 0
  | words => words.foldlM (fun status word => do
    let number ← processOf word
    return ((← process).jobs.lookup number).getD status) 127

def evalCommand (r : Runner) (tested : Bool) (args : List ByteText) : Eval Nat :=
  match args with
  | [] => return 0
  | args => r.script (join [' '] args) tested

def dotCommand (r : Runner) (args : List ByteText) : Eval Nat := do
  match ← withoutOptions args with
  | [] => return 0
  | name :: _ => do
    let s ← get
    let folders := piecesAt ':' ((s.process.value? "PATH".toList).getD [])
    let paths := if name.contains '/' then [name]
      else folders.map fun folder => if folder.isEmpty then name else folder ++ '/' :: name
    let bytes? (path : ByteText) : Option Bytes := match s.process.node? s.world path with
      | some (.file bytes _ _) => some bytes
      | _ => none
    match paths.find? fun path => (bytes? path).isSome with
    | some path => do
      change fun p => { p with complainer := some path }
      let status ← r.script (ofBytes ((bytes? path).getD [])) false
      match (← process).skip with
      | .finish _ => change fun p => { p with skip := .nothing }
      | _ => pure ()
      return status
    | none =>
      if name.contains '/' then fault (ofString "cannot open " ++ name ++ ofString ": No such file")
      else fault (name ++ ofString ": not found")

def cannotStart {α : Type} (name : ByteText) (reason : FileFault) : Eval α := do
  complain (name ++ [':', ' '] ++ faultText "not found" reason)
  let isMissing := [.missing, .notFolder, .nameTooLong, .tooManyLinks].contains reason
  change fun p => { p with status := if isMissing then 127 else 126 }
  throw .exit

def execCommand (r : Runner) (args : List ByteText) : Eval Nat := do
  match ← withoutOptions args with
  | [] => return 0
  | name :: args =>
    match findProgram (← get) name with
    | .error reason => cannotStart name reason
    | .ok path => do
      let status ← r.program path (name :: args)
      change fun p => { p with status }
      throw .exit

end OcamlAssist.Script.Builtin
