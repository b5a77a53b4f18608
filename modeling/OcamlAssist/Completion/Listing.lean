-- The index tool's list of candidates. Each line holds a qualified name, a
-- name, and a kind with a type; a line that starts with white space goes on
-- with the line before it.
import OcamlAssist.Completion.Item

namespace OcamlAssist.Listing

open OcamlAssist.Chars OcamlAssist.Text

def startsBlank : List Char → Bool
  | [] => false
  | c :: _ => isBlank c

/-- Puts wrapped lines together: a line feed and the white space after it become one space.
While `skipping`, such white space is being passed over. -/
def unwrap : (skipping : Bool) → List Char → List Char
  | _, [] => []
  | skipping, c :: rest =>
    if skipping && isBlank c then unwrap true rest
    else if c == '\n' && startsBlank rest then ' ' :: unwrap true rest
    else c :: unwrap false rest

def signaturePlaceholder : List Char := "module sig .. end".toList

/-- What is shown after the name: the kind and the type, without the body of a signature. -/
def annotation (rest : List Char) : List Char :=
  if "module sig".toList.isPrefixOf rest then signaturePlaceholder else trim rest

/-- What is put into the text: the qualified name from the place on where what is typed occurs in
it first, so that qualifiers in front of it fall away. -/
def insertion (typed qualified : List Char) : List Char :=
  (fromFirst? typed qualified).getD qualified

/-- The entry of a line. A line with fewer than two spaces has none. -/
def itemOf? (typed line : List Char) : Option Item := do
  let (qualified, line) ← cutAt ' ' line
  let (display, rest) ← cutAt ' ' line
  some
    { label := String.ofList (display ++ '\t' :: annotation rest)
      insertText := String.ofList (insertion typed qualified)
      kind := ItemKind.ofWord (String.ofList ((words rest).headD []))
      source := .indexer }

def entries (output typed : String) : List Item :=
  (piecesAt '\n' (unwrap false output.toList)).filterMap (itemOf? typed.toList)

end OcamlAssist.Listing
