-- Settings that go with every lookup.
import OcamlAssist.Path

namespace OcamlAssist

structure Settings where
  /-- The build directory to look in instead of the tool's own choice. -/
  buildDir : Option Path := none
  deriving DecidableEq, Repr

namespace Settings

def buildDirKey : String := "sublime_ocp_index_build_dir"

end Settings

end OcamlAssist
