-- The names that a text binds: the words of its binding headers without their
-- label markers, in ascending order and each once.
import OcamlAssist.Locals.Header

namespace OcamlAssist.Locals

open OcamlAssist.Text

def withoutMarker : List Char → List Char
  | [] => []
  | c :: rest => if isMarker c then rest else c :: rest

def Header.bound (header : Header) : List String :=
  ((words header.names).map fun word => String.ofList (withoutMarker word)).filter (· != "")

/-- Puts a name into its place of an ascending list, unless it is there. -/
def insertName (name : String) : List String → List String
  | [] => [name]
  | first :: rest =>
    if name < first then name :: first :: rest
    else if name == first then first :: rest
    else first :: insertName name rest

/-- The headers of a text, the `let` headers first. -/
def allHeaders (text : List Char) : List Header :=
  headers letHeader? 0 text ++ headers funHeader? 0 text

def scan (text : String) : List String :=
  ((allHeaders text.toList).flatMap Header.bound).foldr insertName []

end OcamlAssist.Locals
