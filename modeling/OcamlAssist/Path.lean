-- Paths as text, read as a file system reads them: an optional root or leading
-- dot, then pieces between slashes. A piece that is empty or a single dot says
-- nothing.
import OcamlAssist.Text.Split

namespace OcamlAssist

/-- A path, kept as it was written. -/
abbrev Path := String

namespace Path

open OcamlAssist.Text

def isAbsolute (path : List Char) : Bool := path.head? == some '/'

/-- Whether a path starts with a single dot that stands alone. -/
def startsHere : List Char → Bool
  | ['.'] => true
  | '.' :: '/' :: _ => true
  | _ => false

/-- What stands before the pieces of a path: its root, its leading dot, or nothing. -/
def opening (path : List Char) : List Char :=
  if isAbsolute path || startsHere path then path.take 1 else []

def isIdle (piece : List Char) : Bool := piece.isEmpty || piece == ['.']

def dropIdleEnd (found : List (List Char)) : List (List Char) :=
  (found.reverse.dropWhile isIdle).reverse

def tidyPieces (path : List Char) : List (List Char) :=
  dropIdleEnd (piecesAt '/' (path.drop (opening path).length))

/-- The path of the directory that holds a path's last piece. The root and the empty path have
none; a file with no directory in front has the empty one. -/
def parent? (path : Path) : Option Path :=
  match (tidyPieces path.toList).reverse with
  | [] => if startsHere path.toList then some "" else none
  | _ :: before =>
    some (String.ofList (opening path.toList ++ join ['/'] (dropIdleEnd before.reverse)))

def ancestorsUpTo : (count : Nat) → Path → List Path
  | 0, _ => []
  | count + 1, path =>
    match parent? path with
    | some around => around :: ancestorsUpTo count around
    | none => []

/-- The directories around a path, the nearest first. A path has fewer of them than characters,
the empty one aside. -/
def ancestors (path : Path) : List Path := ancestorsUpTo (path.length + 1) path

def fileName? (path : Path) : Option (List Char) :=
  (tidyPieces path.toList).getLast?.filter (· != ['.', '.'])

/-- What follows the last dot of a file name. A dot at the start of a name is part of the name,
and a name without another dot has no extension. -/
def extensionOf (name : List Char) : Option (List Char) :=
  let backward := name.reverse
  let ending := backward.takeWhile (· != '.')
  if ending.length + 1 < backward.length then some ending.reverse else none

def extension? (path : Path) : Option (List Char) := (fileName? path).bind extensionOf

/-- One path below another. An absolute path stays itself. -/
def append (base below : Path) : Path :=
  let base := base.toList
  let below := below.toList
  if isAbsolute below || base.isEmpty then String.ofList below
  else if endsWith ['/'] base then String.ofList (base ++ below)
  else String.ofList (base ++ '/' :: below)

end Path

end OcamlAssist
