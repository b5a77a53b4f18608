-- A run of the program, from its command line to what it printed, what it
-- logged and how it ended.
import OcamlAssist.Cli.Task
import OcamlAssist.Indexer.Tool
import OcamlAssist.Log.Files

namespace OcamlAssist.Cli

def version : String := "ocpc v0.1.0"

/-- Whether a command line asks for the version, which no other word changes. -/
def asksVersion (words : List String) : Bool := words.any fun w => w == "--version" || w == "-v"

structure Report where
  exitCode : Nat
  stdout : String := ""
  stderr : String := ""
  log : Option (Path × List LogRecord) := none
  /-- The files as the run leaves them, the contents of its log aside. -/
  files : FileTree
  calls : List Invocation := []

def complaint (message : String) : String := "ocpc: " ++ message ++ "\n"

/-- What a command came to, before it is known what the log lets through. -/
structure Finished where
  result : Except Fault String
  notes : List LogRecord := []
  calls : List Invocation := []
  files : FileTree

structure Performed where
  outcome : Outcome
  notes : List LogRecord := []
  calls : List Invocation := []
  files : FileTree

def Task.perform (m : Machine) (location : ToolLocation) (task : Task) : Performed :=
  match task.question with
  | none => { outcome := task.otherwise, files := m.files }
  | some lookup =>
    let reply := Tool.run m location lookup.invocation
    { outcome := lookup.answer reply.value
      notes := reply.notes
      calls := [lookup.invocation]
      files := reply.files }

def runCommand (m : Machine) (config : Config) (a : Arguments) (command : String) (file : Path)
    (d : Document) : Finished :=
  let v := viewOf config d
  let session := sessionFor config file v
  let loaded := Session.rescanNotes v
  match taskOf a session v command with
  | .error fault => { result := .error fault, notes := loaded, files := m.files }
  | .ok task =>
    let done := task.perform m config.toolLocation
    let closed := if done.outcome.closes then session.closeNotes v else []
    { result := .ok done.outcome.text
      notes := loaded ++ done.notes ++ done.outcome.notes ++ closed
      calls := done.calls
      files := done.files }

def runArguments (m : Machine) (config : Config) (a : Arguments) : Finished :=
  match a.positional with
  | command :: file :: _ =>
    match openDocument m file with
    | .error fault => { result := .error (.unreadable file fault), files := m.files }
    | .ok d => runCommand m config a command file d
  | _ => { result := .error .usage, files := m.files }

def configFor (m : Machine) (a : Arguments) : Except Fault Config :=
  (Config.load m (a.config.getD (Config.usualPath m))).mapError .config

def Finished.report (f : Finished) (warning : String) (log : Option LogFiles.OpenLog) : Report :=
  { exitCode := match f.result with | .ok _ => 0 | .error _ => 1
    stdout := match f.result with | .ok text => text | .error _ => ""
    stderr := warning ++ match f.result with | .ok _ => "" | .error fault => complaint fault.message
    log := log.map fun log => (log.path, log.kept f.notes)
    files := f.files
    calls := f.calls }

/-- A run with a configuration. Without a log it goes on all the same. -/
def runConfigured (m : Machine) (config : Config) (a : Arguments) : Report :=
  let started := LogFiles.start m config.log
  let finished := runArguments { m with files := started.files } config a
  match started.result with
  | .error fault => finished.report (complaint ("logging disabled: " ++ fault.message)) none
  | .ok none => finished.report "" none
  | .ok (some log) => finished.report (String.join log.complaints) (some log)

def run (m : Machine) (words : List String) : Report :=
  if asksVersion words then { exitCode := 0, stdout := version ++ "\n", files := m.files }
  else
    let configured : Except Fault (Config × Arguments) := do
      let a ← (Arguments.read words).mapError .arguments
      return (← configFor m a, a)
    match configured with
    | .error fault => { exitCode := 1, stderr := complaint fault.message, files := m.files }
    | .ok (config, a) => runConfigured m config a

end OcamlAssist.Cli
