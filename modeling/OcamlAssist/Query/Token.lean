-- The token in front of the cursor. A token is a path that opens with a
-- capital and may hold dots, or a name without dots; both may hold quote marks
-- and method hashes. Of the tokens that end at the cursor the longest counts.
import OcamlAssist.Text.Split

namespace OcamlAssist.Token

open OcamlAssist.Chars OcamlAssist.Text

/-- Characters of a name: identifier characters, quote marks and hashes. -/
def isNameChar (c : Char) : Bool := isIdent c || isTick c || c == '#'

def isPathChar (c : Char) : Bool := isNameChar c || c == '.'

def isPath : List Char → Bool
  | [] => false
  | c :: rest => isCapital c && rest.all isPathChar

def isName (text : List Char) : Bool := !text.isEmpty && text.all isNameChar

def isToken (text : List Char) : Bool := isPath text || isName text

/-- The longest token at the end of a text. It holds path characters only, so it is looked for
among those at the end. -/
def atEnd? (text : List Char) : Option (List Char) :=
  longestSuffix? isToken (text.reverse.takeWhile isPathChar).reverse

end OcamlAssist.Token
