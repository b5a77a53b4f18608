-- From a command line to a task: all that can go wrong does so before there is
-- a task, and a task asks the index tool once or not at all.
import OcamlAssist.Cli.Arguments
import OcamlAssist.Cli.Offset
import OcamlAssist.Completion.Printed
import OcamlAssist.Config.Load
import OcamlAssist.Session.Notes

namespace OcamlAssist.Cli

def usage : String :=
  "usage: ocpc complete FILE OFFSET [--prefix P] [--json]\n" ++
  "       ocpc type FILE OFFSET\n" ++
  "       ocpc locals FILE"

inductive Fault where
  | arguments (fault : ArgumentFault)
  | config (fault : ConfigFault)
  | usage
  | unreadable (file : Path) (fault : FileFault)
  | offset (fault : OffsetFault)
  | unknownCommand (word : String)
  deriving DecidableEq, Repr

def Fault.message : Fault → String
  | .arguments fault => fault.message
  | .config fault => fault.message
  | .usage => Cli.usage
  | .unreadable file fault => "Cannot read " ++ file ++ ": " ++ fault.message
  | .offset fault => fault.message
  | .unknownCommand word => "unknown command " ++ word ++ "\n" ++ Cli.usage

structure Outcome where
  text : String
  notes : List LogRecord := []
  /-- Whether the view is closed in the end. -/
  closes : Bool := true

def printed (lines : List String) : String := String.join (lines.map (· ++ "\n"))

/-- What there is to do: a question for the index tool, and what it comes to if there is none. -/
structure Task where
  question : Option (Lookup Outcome)
  otherwise : Outcome

/-! ## The document -/

/-- The directories to look in: those of the configuration, or the one that the file is in. -/
def foldersFor (config : Config) (file : Path) : List Path :=
  if config.folders.isEmpty then ((Path.parent? file).filter (!·.isEmpty)).toList
  else config.folders

def openDocument (m : Machine) (file : Path) : Except FileFault Document :=
  (m.files.readText m.workingDir file).map fun text => (Document.ofString text).named file

def viewOf (config : Config) (d : Document) : View :=
  { id := ⟨1⟩, document := { d with settings := config.settings } }

def sessionFor (config : Config) (file : Path) (v : View) : Session :=
  { fallbackFolders := foldersFor config file : Session }.rescan v

/-! ## Commands -/

def offsetWord (d : Document) : Option String → Except Fault Nat
  | none => .error .usage
  | some word => (readOffset d word).mapError .offset

def completeTask (a : Arguments) (session : Session) (v : View) (offset : Nat) : Task :=
  let typed := a.typed.getD (v.document.buffer.wordBefore offset)
  { question := (session.complete? v typed [offset]).map fun lookup =>
      { invocation := lookup.invocation
        answer := fun reply =>
          let list := lookup.answer reply
          { text := if a.json then printed [Json.print list.json] else printed list.lines
            notes := Session.completionNotes typed reply } }
    otherwise := { text := "", notes := Session.refusalNotes v [offset], closes := false } }

def typeTask (session : Session) (v : View) (offset : Nat) : Task :=
  let v := { v with document := v.document.setCursor offset }
  { question := (session.shownType? v).map fun lookup =>
      { invocation := lookup.invocation
        answer := fun reply =>
          { text := printed [lookup.answer reply]
            notes := Session.typeNotes lookup.invocation.query reply } }
    otherwise := { text := "" } }

def localsTask (v : View) : Task :=
  { question := none
    otherwise := { text := printed (Locals.scan v.document.buffer.text) } }

def taskOf (a : Arguments) (session : Session) (v : View) : (command : String) → Except Fault Task
  | "complete" =>
    (offsetWord v.document a.positional[2]?).map (completeTask a session v)
  | "type" => (offsetWord v.document a.positional[2]?).map (typeTask session v)
  | "locals" => .ok (localsTask v)
  | other => .error (.unknownCommand other)

end OcamlAssist.Cli
