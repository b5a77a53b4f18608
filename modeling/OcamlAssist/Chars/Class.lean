-- The three character classes that the library speaks of: white space, the
-- characters of an identifier, and the characters of a word in the editor.
-- The last two differ on purpose: a word takes every kind of number, an
-- identifier takes marks, joiners and connector punctuation instead.
import OcamlAssist.Chars.Tables

namespace OcamlAssist.Chars

def isBlank (c : Char) : Bool := blank.has c.toNat

/-- Characters of an identifier: letters, marks, decimal digits, connectors and joiners. -/
def isIdent (c : Char) : Bool :=
  alphabetic.has c.toNat || decimal.has c.toNat || connector.has c.toNat ||
    mark.has c.toNat || joiner.has c.toNat

/-- Characters of a word when the editor moves over words: letters, numbers of every kind and
the underscore. The newest letters and digits count here and in no identifier. -/
def isWord (c : Char) : Bool :=
  c == '_' || alphabetic.has c.toNat || decimal.has c.toNat || otherNumber.has c.toNat ||
    addedWord.has c.toNat

def isCapital (c : Char) : Bool := decide ('A' ≤ c) && decide (c ≤ 'Z')

def isTick (c : Char) : Bool := c == '\''

end OcamlAssist.Chars
