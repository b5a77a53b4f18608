-- Settings written down as JSON: an object with the build directory under its
-- key, or an array with the build directory as its only part. What is missing
-- or null is not set, and what an object holds besides is passed over.
import OcamlAssist.Json.Reader
import OcamlAssist.Settings

namespace OcamlAssist.Settings

open OcamlAssist.Text

def buildDirValue : Reader (Option Path) := do
  Json.gap
  (do Reader.word ['n', 'u', 'l', 'l']; return none) <|>
    ((fun dir => some (String.ofList dir)) <$> Json.text)

/-- A member of an object. One that is not a setting has no value. -/
def member : Reader (Option (Option Path)) := do
  Json.gap
  let key ← Json.text
  Json.mark ':'
  if key == buildDirKey.toList then some <$> buildDirValue
  else
    Json.anyValue
    return none

/-- Settings as an object. A setting stands in it at most once. -/
def fromObject : Reader Settings := do
  Json.mark '{'
  let members ← (do Json.mark '}'; return []) <|> (do
    let members ← Reader.separated member (Json.mark ',')
    Json.mark '}'
    return members)
  match members.filterMap id with
  | [] => return {}
  | [buildDir] => return { buildDir }
  | _ => failure

def fromArray : Reader Settings := do
  Json.mark '['
  (do Json.mark ']'; return {}) <|> (do
    let buildDir ← buildDirValue
    Json.mark ']'
    return { buildDir })

def ofJson? (text : String) : Option Settings :=
  Reader.whole (do let found ← fromObject <|> fromArray; Json.gap; return found) text.toList

end OcamlAssist.Settings
