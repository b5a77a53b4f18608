-- Syntax scopes: what kind of text stands at a place. A scope name is a list
-- of scopes with a space between them, and the assistant acts where one of
-- them is a scope of the OCaml family.
import OcamlAssist.Path

namespace OcamlAssist.Scope

open OcamlAssist.Text

/-- The scopes of the OCaml family: programs, lexers and parsers. -/
def family : List (List Char) :=
  ["source.ocaml".toList, "source.ocamllex".toList, "source.ocamlyacc".toList]

def isOcaml (scopeName : String) : Bool :=
  (piecesAt ' ' scopeName.toList).any fun scope => family.contains scope

def plain : String := "text.plain"

/-- The scope that a file's extension asks for. -/
def ofPath (path : Path) : String :=
  match (Path.extension? path).map String.ofList with
  | some "ml" => "source.ocaml"
  | some "mli" => "source.ocaml"
  | some "mll" => "source.ocamllex"
  | some "mly" => "source.ocamlyacc"
  | _ => plain

end OcamlAssist.Scope
