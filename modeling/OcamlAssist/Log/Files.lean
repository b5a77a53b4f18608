-- Log files: each run writes one, named for the time it starts, and sweeps
-- those of earlier runs that are too old.
import OcamlAssist.Log.Record
import OcamlAssist.Machine.Basic

namespace OcamlAssist.LogFiles

open OcamlAssist.Text

def folder (m : Machine) : Path :=
  Path.append (Path.append m.homeFolder ".ocp-complete") "logs"

def fileName (stamp : Stamp) : String := "ocp-complete_" ++ stamp.text ++ ".log"

def pathIn (folder : Path) (stamp : Stamp) : Path := Path.append folder (fileName stamp)

/-! ## Sweeping -/

def isLogName (name : String) : Bool := Path.extensionOf name.toList == some ['l', 'o', 'g']

/-- Whether what stands at a place is known to be older than it may be. -/
def isStale (m : Machine) (maxAge : Nat) (place : Place) : Bool :=
  match m.modified? place with
  | some modified => maxAge + modified < m.now
  | none => false

/-- Tries one name of a folder: a log file that is too old is removed and counted, if that can be
done. Nothing is done where the path of the name would be too long. -/
def sweepName (m : Machine) (folder : Path) (place : Place) (maxAge : Nat)
    (swept : Nat × FileTree) (name : String) : Nat × FileTree :=
  let m := { m with files := swept.2 }
  let own := place ++ [name]
  if FileTree.isTooLong (Path.append folder name) then swept
  else if isLogName name && isStale m maxAge own then
    match m.removeFile own with
    | .ok files => (swept.1 + 1, files)
    | .error _ => swept
  else swept

/-- Removes the log files of a folder that are too old, and counts them. A folder that is not
there holds none. -/
def sweep (m : Machine) (folder : Path) (maxAge : Nat) : Except FileFault (Nat × FileTree) :=
  match m.files.findFolder m.workingDir folder with
  | .error .missing => .ok (0, m.files)
  | .error fault => .error fault
  | .ok place =>
    if (m.permission place).listed then
      let names := (m.files.within place).map Prod.fst
      .ok (names.foldl (sweepName m folder place maxAge) (0, m.files))
    else .error .notAllowed

/-! ## Opening -/

/-- A log that is open: its path, what it lets through, what was wrong with the filter that was
asked for, and its first record. -/
structure OpenLog where
  path : Path
  filter : LogFilter
  complaints : List String
  started : LogRecord

def openLog (m : Machine) (settings : LogSettings) (path : Path) (swept : Nat) : OpenLog where
  path
  filter := .choose m.logFilter settings.level
  complaints := (m.logFilter.map LogFilter.refusals).getD []
  started := ⟨.info, .logging, "logging started path=" ++ path ++
    " level=" ++ settings.level.name ++ " pruned=" ++ toString swept⟩

def start (m : Machine) (settings : LogSettings) : FileTree.Worked (Option OpenLog) :=
  if settings.isActive then
    let made := m.files.makeFolders m.workingDir m.now (folder m :: Path.ancestors (folder m))
    match made.result with
    | .error fault => ⟨.error fault, made.files⟩
    | .ok () =>
      match sweep { m with files := made.files } (folder m) settings.maxAge with
      | .error fault => ⟨.error fault, made.files⟩
      | .ok (swept, files) =>
        let path := pathIn (folder m) m.stamp
        match files.writeFile m.workingDir path [] m.now with
        | .error fault => ⟨.error fault, files⟩
        | .ok files => ⟨.ok (some (openLog m settings path swept)), files⟩
  else ⟨.ok none, m.files⟩

def OpenLog.kept (log : OpenLog) (records : List LogRecord) : List LogRecord :=
  (log.started :: records).filter log.filter.admits

end OcamlAssist.LogFiles
