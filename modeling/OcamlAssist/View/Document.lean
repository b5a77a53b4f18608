-- Documents: a buffer with a path, cursors, folders, settings and a status
-- line. Reading one never fails, because every offset past the end counts as
-- the end.
import OcamlAssist.Buffer.Basic
import OcamlAssist.View.Region
import OcamlAssist.View.Scope
import OcamlAssist.Settings

namespace OcamlAssist

/-- The texts of a status line, each under a key. A key stands at most once. -/
abbrev StatusLine := List (String × String)

namespace StatusLine

def get? (status : StatusLine) (key : String) : Option String := status.lookup key

def erase (status : StatusLine) (key : String) : StatusLine := status.filter (·.1 != key)

def put (status : StatusLine) (key text : String) : StatusLine := (key, text) :: erase status key

end StatusLine

structure OutOfBounds where
  line : Nat
  column : Nat
  deriving DecidableEq, Repr

def OutOfBounds.message (e : OutOfBounds) : String :=
  "Position out of bounds: line " ++ toString e.line ++ ", column " ++ toString e.column

structure Document where
  buffer : Buffer
  path : Option Path := none
  scope : String := Scope.plain
  selections : List Region := []
  folders : List Path := []
  settings : Settings := {}
  status : StatusLine := []
  deriving DecidableEq, Repr

namespace Document

/-! ## Making one -/

/-- A document without a name. Its cursor stands at the end of the text. -/
def ofString (text : String) : Document :=
  let buffer := Buffer.ofString text
  { buffer, selections := [Region.point buffer.length] }

/-- The document under a path, which decides its scope. -/
def named (d : Document) (path : Path) : Document :=
  { d with path := some path, scope := Scope.ofPath path }

/-- The document with one cursor, at the end of the text if the offset is past it. -/
def setCursor (d : Document) (offset : Nat) : Document :=
  { d with selections := [Region.point (d.buffer.clamp offset)] }

def setStatus (d : Document) (key text : String) : Document :=
  { d with status := d.status.put key text }

def eraseStatus (d : Document) (key : String) : Document :=
  { d with status := d.status.erase key }

/-! ## Reading it -/

def length (d : Document) : Nat := d.buffer.length

def line (d : Document) (offset : Nat) : Region :=
  let row := (d.buffer.positionOf offset).line
  let start := d.buffer.lineStart row
  ⟨start, start + d.buffer.lineLength row⟩

def substr (d : Document) (region : Region) : List Char :=
  d.buffer.slice region.first region.last

/-- The offset of a line and a column that the document has. -/
def offsetOf (d : Document) (line column : Nat) : Except OutOfBounds Nat :=
  if line < d.buffer.lineCount ∧ column ≤ d.buffer.lineLength line then
    .ok (d.buffer.offsetOf ⟨line, column⟩)
  else .error ⟨line, column⟩

end Document

end OcamlAssist
