-- Files and folders, each at a place: the names on the way to it from the
-- root. Paths lead to places, from the root or from the folder that one works
-- in, and what may go wrong on the way has the wording of the system.
import OcamlAssist.Path
import OcamlAssist.Text.Utf8

namespace OcamlAssist

open OcamlAssist.Text

inductive FileFault where
  | missing
  | noDevice
  | badProgram
  | notAllowed
  | taken
  | notFolder
  | isFolder
  | nameTooLong
  | tooManyLinks
  | commandTooLong
  | badPath
  | badCommand
  | badText
  | notSupported
  deriving DecidableEq, Repr

def FileFault.message : FileFault → String
  | .missing => "No such file or directory (os error 2)"
  | .noDevice => "No such device or address (os error 6)"
  | .commandTooLong => "Argument list too long (os error 7)"
  | .badProgram => "Exec format error (os error 8)"
  | .notAllowed => "Permission denied (os error 13)"
  | .taken => "File exists (os error 17)"
  | .notFolder => "Not a directory (os error 20)"
  | .isFolder => "Is a directory (os error 21)"
  | .nameTooLong => "File name too long (os error 36)"
  | .tooManyLinks => "Too many levels of symbolic links (os error 40)"
  | .badPath => "file name contained an unexpected NUL byte"
  | .badCommand => "nul byte found in provided data"
  | .badText => "stream did not contain valid UTF-8"
  | .notSupported => "Function not implemented (os error 38)"

/-- A place: the names on the way to it from the root. -/
abbrev Place := List String

def Place.after (place : Place) (piece : List Char) : Place :=
  if Path.isIdle piece then place
  else if piece == ['.', '.'] then place.dropLast
  else place ++ [String.ofList piece]

/-- Where a path leads from a place, whatever stands on the way. -/
def Place.along (here : Place) (path : Path) : Place :=
  (piecesAt '/' path.toList).foldl Place.after (if Path.isAbsolute path.toList then [] else here)

/-- A device. None of them has anything to read. -/
inductive Device where
  | null
  | full
  /-- It can not be opened, because there is no terminal. -/
  | terminal
  deriving DecidableEq, Repr

/-- What stands at a place, with the time of its last change. What goes into a folder or out of it
is no change of the folder. -/
inductive FileNode where
  | file (bytes : Bytes) (executable : Bool) (modified : Nat)
  | folder (modified : Nat := 0)
  | device (kind : Device) (modified : Nat := 0)
  deriving DecidableEq, Repr

namespace FileNode

def modified : FileNode → Nat
  | .file _ _ modified => modified
  | .folder modified => modified
  | .device _ modified => modified

def isFolder : FileNode → Bool
  | .folder _ => true
  | .file _ _ _ | .device _ _ => false

end FileNode

/-- Files and folders by place. A place stands at most once, and the root is always a folder. -/
structure FileTree where
  entries : List (Place × FileNode) := []
  deriving DecidableEq, Repr

namespace FileTree

def node? (tree : FileTree) (place : Place) : Option FileNode :=
  if place.isEmpty then some .folder else tree.entries.lookup place

def isFolder (tree : FileTree) (place : Place) : Bool := (tree.node? place).any FileNode.isFolder

def erase (tree : FileTree) (place : Place) : FileTree :=
  ⟨tree.entries.filter (·.1 != place)⟩

def put (tree : FileTree) (place : Place) (node : FileNode) : FileTree :=
  ⟨(tree.erase place).entries ++ [(place, node)]⟩

def within (tree : FileTree) (place : Place) : List (String × FileNode) :=
  tree.entries.filterMap fun (found, node) =>
    match found.getLast? with
    | some name => if found.dropLast = place then some (name, node) else none
    | none => none

/-! ## Paths -/

def longestName : Nat := 255

def longestPath : Nat := 4095

def isTooLong (path : Path) : Bool := longestPath < (encode path.toList).length

/-- Follows the pieces of a path from a place on. Every piece asks for a folder to look in; the
last place need not be there. -/
def follow (tree : FileTree) :
    (start : Place) → (pieces : List (List Char)) → Except FileFault Place
  | place, [] => .ok place
  | place, piece :: rest =>
    match tree.node? place with
    | none => .error .missing
    | some (.file _ _ _) => .error .notFolder
    | some (.device _ _) => .error .notFolder
    | some (.folder _) =>
      if Path.isIdle piece then follow tree place rest
      else if piece == ['.', '.'] then follow tree place.dropLast rest
      else if longestName < (encode piece).length then .error .nameTooLong
      else follow tree (place ++ [String.ofList piece]) rest

def resolve (tree : FileTree) (here : Place) (path : Path) : Except FileFault Place :=
  let chars := path.toList
  if chars.contains '\x00' then .error .badPath
  else if chars.isEmpty then .error .missing
  else if isTooLong path then .error .nameTooLong
  else tree.follow (if Path.isAbsolute chars then [] else here) (piecesAt '/' chars)

def find (tree : FileTree) (here : Place) (path : Path) : Except FileFault FileNode := do
  let place ← tree.resolve here path
  match tree.node? place with
  | some node => .ok node
  | none => .error .missing

def findFolder (tree : FileTree) (here : Place) (path : Path) : Except FileFault Place := do
  let place ← tree.resolve here path
  match tree.node? place with
  | some (.folder _) => .ok place
  | some _ => .error .notFolder
  | none => .error .missing

/-! ## Reading and writing -/

def has (tree : FileTree) (here : Place) (path : Path) : Bool :=
  match tree.find here path with
  | .ok _ => true
  | .error _ => false

def hasFile (tree : FileTree) (here : Place) (path : Path) : Bool :=
  match tree.find here path with
  | .ok (.file _ _ _) => true
  | _ => false

def hasProgram (tree : FileTree) (here : Place) (path : Path) : Bool :=
  match tree.find here path with
  | .ok (.file _ executable _) => executable
  | _ => false

def readText (tree : FileTree) (here : Place) (path : Path) : Except FileFault String := do
  match ← tree.find here path with
  | .folder _ => .error .isFolder
  | .device .terminal _ => .error .noDevice
  | .device _ _ => .ok ""
  | .file bytes _ _ =>
    match decode? bytes with
    | some text => .ok (String.ofList text)
    | none => .error .badText

def makeFolder (tree : FileTree) (here : Place) (path : Path) (now : Nat) :
    Except FileFault FileTree := do
  let place ← tree.resolve here path
  match tree.node? place, tree.node? place.dropLast with
  | some _, _ => .error .taken
  | none, some (.folder _) => .ok (tree.put place (.folder now))
  | none, some _ => .error .notFolder
  | none, none => .error .missing

def ensureFolder (tree : FileTree) (here : Place) (path : Path) (now : Nat) :
    Except FileFault FileTree :=
  match tree.makeFolder here path now with
  | .ok tree => .ok tree
  | .error fault =>
    match tree.findFolder here path with
    | .ok _ => .ok tree
    | .error _ => .error fault

/-- What steps on the files came to, and the files as they left them. A fault stops the steps, and
what was done before it stays done. -/
structure Worked (α : Type) where
  result : Except FileFault α
  files : FileTree

/-- Makes a folder at the first of some paths, which the others lead up to, the nearest first. A
folder around it is made only where one is missing. -/
def makeFolders (tree : FileTree) (here : Place) (now : Nat) : (paths : List Path) → Worked Unit
  | [] => ⟨.error .missing, tree⟩
  | path :: around =>
    if path.isEmpty then ⟨.ok (), tree⟩
    else
      match tree.ensureFolder here path now with
      | .ok made => ⟨.ok (), made⟩
      | .error .missing =>
        let led := tree.makeFolders here now around
        match led.result with
        | .error fault => ⟨.error fault, led.files⟩
        | .ok () =>
          match led.files.ensureFolder here path now with
          | .ok made => ⟨.ok (), made⟩
          | .error fault => ⟨.error fault, led.files⟩
      | .error fault => ⟨.error fault, tree⟩

def writeFile (tree : FileTree) (here : Place) (path : Path) (bytes : Bytes) (now : Nat) :
    Except FileFault FileTree := do
  let place ← tree.resolve here path
  match tree.node? place, tree.node? place.dropLast with
  | some (.folder _), _ => .error .isFolder
  | some (.device .terminal _), _ => .error .noDevice
  | some (.device _ _), _ => .ok tree
  | _, some (.folder _) => .ok (tree.put place (.file bytes false now))
  | _, some _ => .error .notFolder
  | _, none => .error .missing

end FileTree

end OcamlAssist
