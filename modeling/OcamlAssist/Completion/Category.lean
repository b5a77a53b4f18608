-- Which categories of names fit into a file: an interface has no values, an
-- implementation seldom names a bare type or a signature.
import OcamlAssist.Text.Split

namespace OcamlAssist

/-- The categories that a completion shows and hides, each a letter. -/
structure CategoryFilter where
  shown : String
  hidden : String
  deriving DecidableEq, Repr

namespace CategoryFilter

def interface : CategoryFilter := ⟨"t,m,s,k", "v,e,c"⟩

def implementation : CategoryFilter := ⟨"v,e,c,m,k", "t,s,k"⟩

def forFile : Option String → CategoryFilter
  | some file => if Text.endsWith ['.', 'm', 'l', 'i'] file.toList then interface else implementation
  | none => implementation

/-- The form in which the index tool is to write its candidates: qualified name, name, kind and
type. -/
def lineFormat : String := "%q %p %k %t"

def args (filter : CategoryFilter) : List String :=
  ["--format", lineFormat, "--show", filter.shown, "--hide", filter.hidden]

end CategoryFilter

end OcamlAssist
