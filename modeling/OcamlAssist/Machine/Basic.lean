-- The machine that a run of the assistant takes place on: its files, its
-- environment, its clock, and what its programs do when they are started.
import OcamlAssist.Machine.Files

namespace OcamlAssist

open OcamlAssist.Text

structure Program where
  path : Path
  bytes : Bytes
  args : List String
  workingDir : Place
  environment : List (String × String) := []
  now : Nat := 0
  deriving DecidableEq, Repr

/-- What a program writes until it ends, and the files as it leaves them. -/
structure ProgramOutput where
  stdout : Bytes := []
  stderr : Bytes := []
  files : FileTree
  deriving DecidableEq, Repr

structure Stamp where
  year : Nat
  month : Nat
  day : Nat
  hour : Nat
  minute : Nat
  second : Nat
  deriving DecidableEq, Repr

namespace Stamp

def padded (digits n : Nat) : String :=
  let text := toString n
  String.ofList (List.replicate (digits - text.length) '0') ++ text

def text (s : Stamp) : String :=
  padded 4 s.year ++ "-" ++ padded 2 s.month ++ "-" ++ padded 2 s.day ++ "_" ++
  padded 2 s.hour ++ "-" ++ padded 2 s.minute ++ "-" ++ padded 2 s.second

end Stamp

/-- What a machine lets be done with what stands at a place. -/
structure Permission where
  listed : Bool := true
  /-- The time of the last change is told. -/
  timed : Bool := true
  removable : Bool := true
  deriving DecidableEq, Repr

structure Machine where
  files : FileTree := {}
  permission : Place → Permission := fun _ => {}
  workingDir : Place := []
  /-- The user's own folder, as the environment gives it. -/
  home : Path := ""
  /-- The user's own folder for when the environment says nothing. -/
  accountHome : Path := "/root"
  searchPath : String := ""
  logFilter : Option String := none
  /-- The time in nanoseconds. -/
  now : Nat := 0
  stamp : Stamp := ⟨0, 0, 0, 0, 0, 0⟩
  /-- What a program does among the files when it is started. -/
  behaviour : FileTree → Program → Except FileFault ProgramOutput :=
    fun _ _ => .error .notSupported

namespace Machine

def homeFolder (m : Machine) : Path := if m.home.isEmpty then m.accountHome else m.home

/-- Folders to look for programs in. An empty one is the folder that one works in. -/
def searchFolders (m : Machine) : List Path :=
  (piecesAt ':' m.searchPath.toList).map String.ofList

/-! ## Looking at files and removing them -/

def modified? (m : Machine) (place : Place) : Option Nat :=
  if (m.permission place).timed then (m.files.node? place).map FileNode.modified else none

/-- The files without what stands at a place. A folder is not removed the way a file is. -/
def removeFile (m : Machine) (place : Place) : Except FileFault FileTree :=
  match m.files.node? place with
  | none => .error .missing
  | some (.folder _) => .error .isFolder
  | some _ =>
    if (m.permission place).removable then .ok (m.files.erase place) else .error .notAllowed

/-! ## Starting programs -/

def environment (m : Machine) : List (String × String) :=
  [("PATH", m.searchPath), ("HOME", m.home)]

/-- The number of bytes that a word of a command line takes up, its end included. -/
def wordSize (word : String) : Nat := (encode word.toList).length + 1

def isCommandTooLong (words : List String) : Bool :=
  (words.any fun word => 131072 < wordSize word) ||
    2097152 < words.foldl (fun total word => total + wordSize word + 8) 0

def startAt (m : Machine) (here : Place) (path : Path) (args : List String) :
    Except FileFault ProgramOutput := do
  match ← m.files.find here path with
  | .file bytes true _ =>
    if isCommandTooLong (path :: args) then .error .commandTooLong
    else
      m.behaviour m.files
        { path, bytes, args, workingDir := here, environment := m.environment, now := m.now }
  | _ => .error .notAllowed

def isPassedOver (fault : FileFault) : Bool :=
  fault == .missing || fault == .notFolder || fault == .notAllowed

/-- Starts the first program of a name in the folders that can be started. If there is none, the
last fault is reported, but one that may not be started comes before all others. -/
def startIn (m : Machine) (here : Place) (name : Path) (args : List String) :
    (fault : FileFault) → List Path → Except FileFault ProgramOutput
  | fault, [] => .error fault
  | fault, folder :: rest =>
    match m.startAt here (Path.append folder name) args with
    | .ok output => .ok output
    | .error found =>
      if isPassedOver found then
        m.startIn here name args (if fault == .notAllowed then fault else found) rest
      else .error found

/-- Starts a program with words and, if one is given, in a folder. A name without slashes is
looked for. -/
def start (m : Machine) (program : Path) (args : List String) (dir : Option Path) :
    Except FileFault ProgramOutput := do
  let given := program :: args ++ dir.toList
  if given.any fun text => text.toList.contains '\x00' then .error .badCommand
  else
    let here ← dir.elim (.ok m.workingDir) (m.files.findFolder m.workingDir)
    if program.isEmpty then .error .missing
    else if program.toList.contains '/' then m.startAt here program args
    else m.startIn here program args .missing m.searchFolders

/-! ## Looking for programs -/

/-- A folder to look in, with the user's own folder in place of a tilde at its start. -/
def expandTilde (m : Machine) (folder : Path) : Path :=
  match folder.toList with
  | ['~'] => m.homeFolder
  | '~' :: '/' :: rest =>
    ((piecesAt '/' rest).filter (!Path.isIdle ·)).foldl
      (fun folder piece => Path.append folder (String.ofList piece)) m.homeFolder
  | _ => folder

def which? (m : Machine) (name : String) : Option Path :=
  (m.searchFolders.map fun folder => Path.append (m.expandTilde folder) name).find?
    (m.files.hasProgram m.workingDir)

end Machine

end OcamlAssist
