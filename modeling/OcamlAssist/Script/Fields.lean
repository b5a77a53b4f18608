-- What expansions make of words: atoms, which separators cut into fields, and
-- which patterns replace by the files that fit them.
import OcamlAssist.Script.Pattern
import OcamlAssist.Script.Shell

namespace OcamlAssist.Script

open OcamlAssist.Text

/-! ## Atoms -/

inductive Atom where
  /-- A quotation mark stood here, so there is a field even if it is empty. -/
  | mark
  | char (c : Char) (quoted : Bool)
  /-- One argument ends here and another one starts. -/
  | cut

inductive Splitting where
  | never
  | words
  | arguments
  deriving DecidableEq

structure Piece where
  atoms : List Atom
  splitting : Splitting

def atomsOf (quoted : Bool) (text : ByteText) : List Atom := text.map fun c => .char c quoted

def textOf (atoms : List Atom) : ByteText := atoms.filterMap fun
  | .char c _ => some c
  | _ => none

/-- The pattern that atoms make up, in which what is quoted fits only itself. -/
def patternOf (atoms : List Atom) : ByteText := atoms.flatMap fun
  | .char c quoted => if quoted then Pattern.quoted c else [c]
  | _ => []

def atomsIn (pieces : List Piece) : List Atom := pieces.flatMap Piece.atoms

/-! ## Cutting -/

/-- How far the cutting of a word is. -/
structure Cutting where
  done : List (List Atom) := []
  current : List Atom := []
  /-- Whether white space has just ended a field. -/
  afterSpace : Bool := false
  splitting : Splitting := .never
  /-- How many more fields there may be, if they are limited. The last field takes everything. -/
  limit : Option Nat := none
  /-- How much of the last field counts if nothing but white space follows. -/
  keptLength : Option Nat := none

namespace Cutting

/-- Takes in one more atom of a piece that is cut, where the piece in front of it may have been cut
between arguments. -/
def take (separators : ByteText) (afterArguments : Bool) (s : Cutting) (atom : Atom) : Cutting :=
  let byArguments := s.splitting = .arguments
  let (isSeparator, isSpace) := match atom with
    | .cut => (true, true)
    | .char c _ =>
      let found := !byArguments && separators.contains c
      (found, found && (isGap c || c == '\n'))
    | .mark => (false, false)
  if s.limit = some 0 then
    let kept := { s with current := atom :: s.current }
    if isSpace then
      if s.keptLength.isNone then { kept with keptLength := some s.current.length } else kept
    else if isSeparator && s.afterSpace then { kept with afterSpace := false }
    else { kept with keptLength := none, afterSpace := false }
  else if s.afterSpace && isSpace then { s with current := [] }
  else if s.afterSpace && isSeparator then { s with current := [], afterSpace := false }
  else if isSeparator then
    let afterSpace := if afterArguments || byArguments then false else isSpace
    if s.current.isEmpty && afterSpace then { s with afterSpace := false }
    else if s.limit = some 1 then
      { s with
        limit := some 0
        keptLength := some s.current.length
        current := atom :: s.current
        afterSpace }
    else
      { s with
        done := s.current :: s.done
        current := []
        limit := s.limit.map (· - 1)
        afterSpace }
  else { s with current := atom :: s.current, afterSpace := false }

def takePiece (separators : ByteText) (s : Cutting) (piece : Piece) : Cutting :=
  if piece.splitting = .never then { s with current := piece.atoms.reverse ++ s.current }
  else
    piece.atoms.foldl (take separators (s.splitting = .arguments))
      { s with splitting := piece.splitting, afterSpace := false }

end Cutting

def fieldsOf (separators : ByteText) (limit : Option Nat) (pieces : List Piece) :
    List (List Atom) :=
  let s := pieces.foldl (Cutting.takePiece separators) { limit }
  let last := match s.keptLength with
    | some kept => s.current.drop (s.current.length - kept)
    | none => s.current
  let last := if last.isEmpty && s.splitting != .arguments then [] else [last]
  (last ++ s.done).reverse.map List.reverse

/-! ## Files that fit -/

/-- Whether a bracket opens a list that is closed. -/
def closesList (pattern : ByteText) : Bool :=
  let rest := if pattern.head? == some '!' then pattern.tail else pattern
  rest.tail.contains ']'

def isPattern : ByteText → Bool
  | [] => false
  | '\\' :: _ :: rest => isPattern rest
  | '*' :: _ => true
  | '?' :: _ => true
  | '[' :: rest => closesList rest || isPattern rest
  | _ :: rest => isPattern rest

def isBefore : (a b : ByteText) → Bool
  | [], _ => true
  | _ :: _, [] => false
  | x :: a, y :: b => if x == y then isBefore a b else x < y

/-- The names in a folder that fit a pattern. A dot at the start of a name has to be asked for. -/
def fittingNames (tree : FileTree) (here : Place) (folder pattern : ByteText) : List ByteText :=
  match tree.findFolder here (if folder.isEmpty then "." else pathOf folder) with
  | .error _ => []
  | .ok place =>
    let names := ['.'] :: ['.', '.'] :: (tree.within place).map fun found => ofString found.1
    let mayBeHidden := (Pattern.unquoted pattern).head? == some '.'
    names.filter fun name => (mayBeHidden || name.head? != some '.') && Pattern.fits pattern name

def fittingPaths (tree : FileTree) (here : Place) : (start : ByteText) → List ByteText → List ByteText
  | start, [] => [start]
  | start, piece :: rest =>
    let names := if isPattern piece then fittingNames tree here start piece
      else [Pattern.unquoted piece]
    names.flatMap fun name =>
      let path := start ++ name
      match rest with
      | [] => if tree.has here (pathOf path) then [path] else []
      | rest => fittingPaths tree here (path ++ ['/']) rest

/-- The files that a field stands for: those that fit it, in order, or else itself. -/
def filesOf (tree : FileTree) (here : Place) (field : List Atom) : List ByteText :=
  let pieces := piecesAt '/' (patternOf field)
  if pieces.any isPattern then
    let found := (fittingPaths tree here [] pieces).mergeSort isBefore
    if found.isEmpty then [textOf field] else found
  else [textOf field]

end OcamlAssist.Script
