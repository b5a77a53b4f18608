-- The program itself: it looks at the files that a run may read, works the run
-- out on them, and carries over what the run prints, logs and sweeps. It
-- starts no programs of its own, so a lookup says that the index tool could
-- not be started.
import OcamlAssist.Cli.Run
import Std.Time.Zoned

namespace OcamlAssist.Host

/-! ## Looking at files -/

def withFoldersTo (tree : FileTree) (place : Place) : FileTree :=
  (List.range place.length).foldl (fun tree n =>
    let around := place.take n
    if (tree.node? around).isSome then tree else tree.put around .folder) tree

/-- Adds what stands where a path leads, if anything does. -/
def look (tree : FileTree) (here : Place) (path : Path) (executable : Bool) : IO FileTree := do
  let place := here.along path
  try
    let bytes ← IO.FS.readBinFile path
    return (withFoldersTo tree place).put place (.file bytes.toList executable 0)
  catch
    | .inappropriateType _ _ _ => return (withFoldersTo tree place).put place .folder
    | _ => return tree

def nanoseconds (time : IO.FS.SystemTime) : Nat := time.sec.toNat * 1000000000 + time.nsec.toNat

def lookInto (tree : FileTree) (here : Place) (folder : Path) : IO FileTree := do
  let place := here.along folder
  try
    let entries ← ((← IO.currentDir) / folder).readDir
    let start := (withFoldersTo tree place).put place .folder
    entries.foldlM (fun tree entry => do
      let about ← entry.path.metadata
      let node : FileNode :=
        match about.type with
        | .dir => .folder (nanoseconds about.modified)
        | _ => .file [] false (nanoseconds about.modified)
      return tree.put (place ++ [entry.fileName]) node) start
  catch _ => return tree

def machineFor (words : List String) : IO Machine := do
  let here := Place.along [] (toString (← IO.currentDir))
  let clock ← Std.Time.PlainDateTime.now
  let bare : Machine := {
    workingDir := here
    home := (← IO.getEnv "HOME").getD ""
    searchPath := (← IO.getEnv "PATH").getD ""
    logFilter := ← IO.getEnv "RUST_LOG"
    now := (← Std.Time.Timestamp.now).toNanosecondsSinceUnixEpoch.val.toNat
    stamp := {
      year := clock.year.toInt.toNat
      month := clock.month.val.toNat
      day := clock.day.val.toNat
      hour := clock.hour.val.toNat
      minute := clock.minute.val.toNat
      second := clock.second.val.toNat } }
  let named := match Cli.Arguments.read words with
    | .ok a => a.config.toList ++ a.positional[1]?.toList
    | .error _ => []
  let texts := Config.usualPath bare :: named
  let programs := bare.searchFolders.map fun folder => Path.append folder indexerName
  let files ← texts.foldlM (fun tree path => look tree here path false) {}
  let files ← programs.foldlM (fun tree path => look tree here path true) files
  let files ← lookInto files here (LogFiles.folder bare)
  return { bare with files }

/-! ## Carrying over -/

def makeFolders (m : Machine) (report : Cli.Report) : IO Unit := do
  for (place, node) in report.files.entries do
    if node.isFolder && (m.files.node? place).isNone then
      try IO.FS.createDirAll ("/" ++ "/".intercalate place) catch _ => pure ()

def removeSwept (m : Machine) (report : Cli.Report) : IO Unit := do
  let folder := LogFiles.folder m
  let place := m.workingDir.along folder
  for (name, _) in m.files.within place do
    if (report.files.node? (place ++ [name])).isNone then
      try IO.FS.removeFile (Path.append folder name) catch _ => pure ()

def writeLog (m : Machine) (path : Path) (records : List LogRecord) : IO Unit := do
  try
    IO.FS.writeFile path
      (String.join (records.map fun r => m.stamp.text ++ " " ++ r.text ++ "\n"))
  catch _ => pure ()

end OcamlAssist.Host

open OcamlAssist in
def main (words : List String) : IO UInt32 := do
  let m ← Host.machineFor words
  let report := Cli.run m words
  Host.makeFolders m report
  Host.removeSwept m report
  match report.log with
  | some (path, records) => Host.writeLog m path records
  | none => pure ()
  IO.print report.stdout
  IO.eprint report.stderr
  return UInt32.ofNat report.exitCode
