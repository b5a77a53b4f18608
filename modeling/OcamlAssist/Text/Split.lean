-- Cutting text into pieces: at separators, into words, at the first
-- occurrence of a piece, and at the white space around it.
import OcamlAssist.Chars.Class

namespace OcamlAssist.Text

open OcamlAssist.Chars

/-! ## Pieces -/

/-- The pieces between separators. There is always one more piece than separators, and a piece
may be empty. -/
def pieces (isSeparator : Char → Bool) : List Char → List (List Char)
  | [] => [[]]
  | c :: rest =>
    if isSeparator c then [] :: pieces isSeparator rest
    else
      match pieces isSeparator rest with
      | [] => [[c]]
      | piece :: others => (c :: piece) :: others

def piecesAt (separator : Char) (text : List Char) : List (List Char) :=
  pieces (· == separator) text

def words (text : List Char) : List (List Char) :=
  (pieces isBlank text).filter (!·.isEmpty)

def cutAt (separator : Char) : List Char → Option (List Char × List Char)
  | [] => none
  | c :: rest =>
    if c == separator then some ([], rest)
    else (cutAt separator rest).map fun (before, after) => (c :: before, after)

/-! ## Ends -/

def trimStart (text : List Char) : List Char := text.dropWhile isBlank

def trimEnd (text : List Char) : List Char := (text.reverse.dropWhile isBlank).reverse

def trim (text : List Char) : List Char := trimEnd (trimStart text)

/-- What follows `start`, if the text begins with it. -/
def after? : (start text : List Char) → Option (List Char)
  | [], text => some text
  | _ :: _, [] => none
  | s :: start, c :: text => if s == c then after? start text else none

def endsWith (ending text : List Char) : Bool := ending.reverse.isPrefixOf text.reverse

/-! ## Suffixes -/

def longestSuffix? (accepts : List Char → Bool) : List Char → Option (List Char)
  | [] => if accepts [] then some [] else none
  | c :: rest => if accepts (c :: rest) then some (c :: rest) else longestSuffix? accepts rest

/-- The text from the first occurrence of `piece` on. -/
def fromFirst? (piece text : List Char) : Option (List Char) :=
  longestSuffix? piece.isPrefixOf text

def join (separator : List Char) : List (List Char) → List Char
  | [] => []
  | [piece] => piece
  | piece :: rest => piece ++ separator ++ join separator rest

end OcamlAssist.Text
