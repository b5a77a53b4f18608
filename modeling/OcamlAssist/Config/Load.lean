-- Loading the configuration from a file. A file that is not there is a
-- configuration without any settings; one that can not be read or makes no
-- sense is a fault.
import OcamlAssist.Config.FromToml
import OcamlAssist.Machine.Basic

namespace OcamlAssist

inductive ConfigFault where
  | unreadable (path : Path) (fault : FileFault)
  | invalid
  deriving DecidableEq, Repr

def ConfigFault.invalidOpening : String := "Invalid config: "

def ConfigFault.message : ConfigFault → String
  | .unreadable path fault => "Cannot read " ++ path ++ ": " ++ fault.message
  | .invalid => invalidOpening

namespace Config

def fileName : String := ".ocp-complete.toml"

/-- The file that is loaded if none is named. -/
def usualPath (m : Machine) : Path := Path.append m.homeFolder fileName

def load (m : Machine) (path : Path) : Except ConfigFault Config :=
  if !m.files.has m.workingDir path then .ok { source := path }
  else
    match m.files.readText m.workingDir path with
    | .error fault => .error (.unreadable path fault)
    | .ok text =>
      match ofToml? text with
      | none => .error .invalid
      | some config => .ok { config with source := path }

end Config

end OcamlAssist
