-- The configuration of the assistant: settings for every buffer, where the
-- index tool is, where to look when the host names no folders, and the log.
import OcamlAssist.Log.Level
import OcamlAssist.Settings

namespace OcamlAssist

inductive ToolLocation where
  | search
  | fixed (program : Path)
  deriving DecidableEq, Repr

structure Config where
  settings : Settings := {}
  /-- The path of the index tool's program, if it is not to be looked for. -/
  toolPath : Option Path := none
  /-- Directories to look in when the host names none. -/
  folders : List Path := []
  log : LogSettings := {}
  source : Path := ""
  deriving DecidableEq, Repr

namespace Config

def toolLocation (c : Config) : ToolLocation := c.toolPath.elim .search .fixed

end Config

end OcamlAssist
