-- The index tool as a program: it is looked for on the search path and then in
-- the directory that opam keeps its programs in. Whatever it complains about
-- makes the whole call fail, and how it ends does not count.
import OcamlAssist.Config.Basic
import OcamlAssist.Indexer.Reply
import OcamlAssist.Log.Record
import OcamlAssist.Machine.Basic

namespace OcamlAssist.Tool

open OcamlAssist.Text

/-- What a step gives, with what the log says about it and the files as it leaves them. -/
structure Traced (α : Type) where
  value : α
  notes : List LogRecord := []
  files : FileTree

def opamFolder? (m : Machine) : Traced (Option Path) :=
  match m.start "opam" ["config", "var", "bin"] none with
  | .error _ => { value := none, files := m.files }
  | .ok output =>
    let folder := trimEnd (decodeLenient output.stdout)
    { value := if folder.isEmpty then none else some (String.ofList folder)
      files := output.files }

def locate (m : Machine) : ToolLocation → Traced (Except LookupFault Path)
  | .fixed program => { value := .ok program, files := m.files }
  | .search =>
    match m.which? indexerName with
    | some program => { value := .ok program, files := m.files }
    | none =>
      let asked := opamFolder? m
      match asked.value with
      | none => { value := .error .toolMissing, files := asked.files }
      | some folder =>
        let program := Path.append folder indexerName
        if asked.files.hasFile m.workingDir program then
          { value := .ok program, files := asked.files }
        else
          { value := .error .toolMissing
            notes := [⟨.debug, .indexer, "No " ++ indexerName ++ " at " ++ program⟩]
            files := asked.files }

def commandLine (program : Path) (args : List String) : String :=
  String.ofList (join [' '] ((program :: args).map String.toList))

/-- What a call means that wrote something. -/
def read (command : Subcommand) (output : ProgramOutput) : Traced Reply :=
  let complaint := String.ofList (trim (decodeLenient output.stderr))
  let text := String.ofList (trim (decodeLenient output.stdout))
  if complaint.isEmpty then
    { value := .ok text, notes := [⟨.debug, .indexer, text⟩], files := output.files }
  else
    { value := .error (.toolReported complaint)
      notes := [⟨.warn, .indexer,
        indexerName ++ " " ++ command.word ++ " failed: " ++ complaint⟩]
      files := output.files }

def call (m : Machine) (program : Path) (i : Invocation) : Traced Reply :=
  let announced : LogRecord :=
    ⟨.debug, .indexer, "'" ++ commandLine program i.args ++ "'"⟩
  match m.start program i.args i.workingDir with
  | .error fault =>
    { value := .error (.cannotStart program fault.message), notes := [announced], files := m.files }
  | .ok output =>
    let found := read i.command output
    { found with notes := announced :: found.notes }

def run (m : Machine) (location : ToolLocation) (i : Invocation) : Traced Reply :=
  let located := locate m location
  match located.value with
  | .error fault => { value := .error fault, notes := located.notes, files := located.files }
  | .ok program =>
    let found := call { m with files := located.files } program i
    { found with notes := located.notes ++ found.notes }

end OcamlAssist.Tool
