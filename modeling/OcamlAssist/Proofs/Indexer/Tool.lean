-- The laws of the index tool as a program: it is found or it is missing, it
-- starts or it does not, and a single word of complaint makes its call fail. A
-- call starts the tool once, and what is left of the files is what that leaves.
import OcamlAssist.Indexer.Tool

namespace OcamlAssist.Tool

open OcamlAssist.Text

/-! ## Looking for the tool -/

/-- What opam says about the directory of its programs, and the files as it leaves them. If it can
not be started or says nothing, then there is no directory. -/
inductive OpamSays (m : Machine) : Option Path → FileTree → Prop
  | absent {fault : FileFault}
      (started : m.start "opam" ["config", "var", "bin"] none = .error fault) :
      OpamSays m none m.files
  | nothing {output : ProgramOutput}
      (started : m.start "opam" ["config", "var", "bin"] none = .ok output)
      (said : trimEnd (decodeLenient output.stdout) = []) :
      OpamSays m none output.files
  | folder {output : ProgramOutput}
      (started : m.start "opam" ["config", "var", "bin"] none = .ok output)
      (said : trimEnd (decodeLenient output.stdout) ≠ []) :
      OpamSays m (some (String.ofList (trimEnd (decodeLenient output.stdout)))) output.files

/-- Where the program of the index tool is, or that it is missing, and the files as the search
leaves them. -/
inductive Located (m : Machine) : ToolLocation → Except LookupFault Path → FileTree → Prop
  | fixed (program : Path) : Located m (.fixed program) (.ok program) m.files
  | onPath {program : Path} (found : m.which? indexerName = some program) :
      Located m .search (.ok program) m.files
  | withOpam {folder : Path} {files : FileTree} (offPath : m.which? indexerName = none)
      (said : OpamSays m (some folder) files)
      (there : files.hasFile m.workingDir (Path.append folder indexerName) = true) :
      Located m .search (.ok (Path.append folder indexerName)) files
  | notWithOpam {folder : Path} {files : FileTree} (offPath : m.which? indexerName = none)
      (said : OpamSays m (some folder) files)
      (gone : files.hasFile m.workingDir (Path.append folder indexerName) = false) :
      Located m .search (.error .toolMissing) files
  | withoutOpam {files : FileTree} (offPath : m.which? indexerName = none)
      (said : OpamSays m none files) :
      Located m .search (.error .toolMissing) files

/-- What the tool complains about. -/
def complaint (output : ProgramOutput) : List Char := trim (decodeLenient output.stderr)

/-- What a call of the index tool comes to, and the files as it leaves them: the program is missing,
it can not be started, it complains, or it answers. -/
inductive Gives (m : Machine) (location : ToolLocation) (i : Invocation) : Reply → FileTree → Prop
  | missing {files : FileTree} (located : Located m location (.error .toolMissing) files) :
      Gives m location i (.error .toolMissing) files
  | notStarted {program : Path} {files : FileTree} {fault : FileFault}
      (located : Located m location (.ok program) files)
      (started : { m with files }.start program i.args i.workingDir = .error fault) :
      Gives m location i (.error (.cannotStart program fault.message)) files
  | complained {program : Path} {files : FileTree} {output : ProgramOutput}
      (located : Located m location (.ok program) files)
      (started : { m with files }.start program i.args i.workingDir = .ok output)
      (said : complaint output ≠ []) :
      Gives m location i (.error (.toolReported (String.ofList (complaint output)))) output.files
  | answered {program : Path} {files : FileTree} {output : ProgramOutput}
      (located : Located m location (.ok program) files)
      (started : { m with files }.start program i.args i.workingDir = .ok output)
      (said : complaint output = []) :
      Gives m location i (.ok (String.ofList (trim (decodeLenient output.stdout)))) output.files

end OcamlAssist.Tool
