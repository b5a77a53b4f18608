-- The module that a source file defines. A file name shows it as a run of
-- identifier characters with `.ml` right behind; the first such run of a path
-- counts, if the path holds no line feed after it.
import OcamlAssist.Text.Split
import OcamlAssist.Chars.Upper

namespace OcamlAssist.ModuleName

open OcamlAssist.Chars OcamlAssist.Text

/-- The run at the start of a text, if it names a module there. -/
def stemAt? (text : List Char) : Option (List Char) :=
  let stem := text.takeWhile isIdent
  match after? ['.', 'm', 'l'] (text.dropWhile isIdent) with
  | some rest => if stem.isEmpty || rest.contains '\n' then none else some stem
  | none => none

def stem? : List Char → Option (List Char)
  | [] => none
  | c :: rest => (stemAt? (c :: rest)).or (stem? rest)

def capitalize : List Char → List Char
  | [] => []
  | c :: rest => upper c ++ rest

def ofFile? (file : String) : Option String :=
  (stem? file.toList).map fun stem => String.ofList (capitalize stem)

end OcamlAssist.ModuleName
