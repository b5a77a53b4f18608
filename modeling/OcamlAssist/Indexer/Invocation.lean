-- Calls of the index tool: what is asked, and the words of the command line
-- that ask it.
import OcamlAssist.Settings

namespace OcamlAssist

inductive Subcommand where
  | type
  | complete
  deriving DecidableEq, Repr

def Subcommand.word : Subcommand → String
  | .type => "type"
  | .complete => "complete"

structure Invocation where
  command : Subcommand
  /-- Directories to look in. The tool runs in the first. -/
  includes : List Path := []
  /-- The module that the question is asked from. -/
  moduleName : Option String := none
  query : String
  context : Option String := none
  /-- Words that go right before the query. -/
  extraArgs : List String := []
  /-- The build directory to look in instead of the tool's own choice. -/
  buildDir : Option Path := none
  deriving DecidableEq, Repr

namespace Invocation

/-- The words that follow the program on the command line. The query is the last of them. -/
def args (i : Invocation) : List String :=
  [i.command.word] ++
  (i.context.map fun place => "--context=" ++ place).toList ++
  i.includes.flatMap (fun dir => ["-I", dir]) ++
  (i.buildDir.map fun dir => "--build=" ++ dir).toList ++
  (i.moduleName.map fun name => ["-F", name]).getD [] ++
  i.extraArgs ++
  [i.query]

def workingDir (i : Invocation) : Option Path := i.includes.head?

end Invocation

end OcamlAssist
