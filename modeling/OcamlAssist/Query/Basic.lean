-- Queries: what to ask the index tool about a place in a document.
import OcamlAssist.Query.Token
import OcamlAssist.Query.ModuleName
import OcamlAssist.View.Document

namespace OcamlAssist

structure Query where
  /-- The module that the document defines, as far as its path tells. -/
  moduleName : Option String
  token : String
  context : Option String
  settings : Settings
  deriving DecidableEq, Repr

namespace Query

def lineBefore (d : Document) (location : Nat) : List Char :=
  d.substr ⟨(d.line location).first, location⟩

/-- A place as the index tool reads it: the file, the row and the column, counted from zero. -/
def contextAt (d : Document) (location : Nat) : Option String :=
  d.path.map fun file =>
    let place := d.buffer.positionOf location
    file ++ ":" ++ toString place.line ++ "," ++ toString place.column

/-- The query at a place, if a token ends there. -/
def at? (d : Document) (location : Nat) : Option Query :=
  (Token.atEnd? (lineBefore d location)).map fun token =>
    { moduleName := d.path.bind ModuleName.ofFile?
      token := String.ofList token
      context := contextAt d location
      settings := d.settings }

end Query

end OcamlAssist
