-- Commands about text, folders and files: what is printed, where one is, and
-- what stands where.
import OcamlAssist.Script.Builtin.Names
import OcamlAssist.Script.Condition
import OcamlAssist.Script.Printing

namespace OcamlAssist.Script.Builtin

open OcamlAssist.Text

/-! ## Printing -/

def say (text : ByteText) : Eval Nat := do
  if ← writeTo 1 text then return 0
  else
    match (← process).complainer with
    | some name => complain (name ++ ofString ": I/O error")
    | none => complain (ofString "I/O error")
    return 1

def echoCommand (args : List ByteText) : Eval Nat := say (echoed args)

def printfCommand (args : List ByteText) : Eval Nat := do
  match ← withoutOptions args with
  | [] => fault "usage: printf format [arg ...]".toList
  | format :: args => do
    let (printed, wrong) := formatted format args
    printed.complaints.reverse.forM complain
    let status ← say printed.text
    match wrong with
    | some text => fault text
    | none => return if printed.complaints.isEmpty then status else 1

/-! ## Folders -/

/-- A path followed from a folder by its names alone. -/
def followed (folder path : ByteText) : ByteText :=
  let isDouble := match path with
    | '/' :: '/' :: c :: _ => c != '/'
    | ['/', '/'] => true
    | _ => false
  let isRooted := path.head? == some '/'
  let double := if isRooted then isDouble else folder.take 2 == ['/', '/']
  let start := if isRooted then [] else (piecesAt '/' folder).filter (!·.isEmpty)
  let names := (piecesAt '/' path).foldl (fun names piece =>
    if piece.isEmpty || piece == ['.'] then names
    else if piece == ['.', '.'] then names.dropLast
    else names ++ [piece]) start
  (if double then ['/', '/'] else ['/']) ++ join ['/'] names

def goTo (physical : Bool) (path : ByteText) : Eval Bool := do
  let s ← get
  let p := s.process
  let path := if physical then path else followed p.path path
  match s.world.files.findFolder p.folder (pathOf path) with
  | .error _ => return false
  | .ok place => do
    let path := if physical then '/' :: join ['/'] (place.map ofString) else path
    change fun p => { p with folder := place, path }
    changeVariable "OLDPWD".toList fun v => { v with value := some p.path, exported := true }
    changeVariable "PWD".toList fun v => { v with value := some path, exported := true }
    return true

def staysHere (path : ByteText) : Bool :=
  match path with
  | '/' :: _ => true
  | ['.'] => true
  | '.' :: '/' :: _ => true
  | ['.', '.'] => true
  | '.' :: '.' :: '/' :: _ => true
  | _ => false

def asksPhysical (options : List GivenOption) : Bool := options.getLast?.any (·.letter == 'P')

/-- Goes to another folder: the own one if none is given, the last one for a dash, or the first one
of that name below some folders. -/
def cdCommand (args : List ByteText) : Eval Nat := do
  let (options, args) ← takeOptions [('L', false), ('P', false)] args
  let physical := asksPhysical options
  let p ← process
  let isBack := args.head? == some ['-']
  let path := match args with
    | [] => (p.value? "HOME".toList).getD []
    | ['-'] :: _ => (p.value? "OLDPWD".toList).getD []
    | path :: _ => path
  let named := if path.isEmpty then ['.'] else path
  let starts := if staysHere path then [] else
    match p.value? "CDPATH".toList with
    | some starts => piecesAt ':' starts
    | none => []
  let below (start : ByteText) : ByteText :=
    if start.isEmpty then named else start ++ '/' :: named
  let files := (← get).world.files
  let found := starts.find? fun start =>
    (files.findFolder p.folder (pathOf (below start))).toOption.isSome
  let target := found.elim named below
  let shows := isBack || found.any (!·.isEmpty)
  if ← goTo physical target then
    if shows then say ((← process).path ++ ['\n']) else return 0
  else fault (ofString "can't cd to " ++ path)

def pwdCommand (args : List ByteText) : Eval Nat := do
  let (options, _) ← takeOptions [('L', false), ('P', false)] args
  let p ← process
  if asksPhysical options then say ('/' :: join ['/'] (p.folder.map ofString) ++ ['\n'])
  else say (p.path ++ ['\n'])

/-! ## Modes -/

/-- The letters of the rights that a digit leaves. -/
def rightsLeft (digit : Nat) : String :=
  (if digit / 4 % 2 = 0 then "r" else "") ++ (if digit / 2 % 2 = 0 then "w" else "") ++
    (if digit % 2 = 0 then "x" else "")

/-- Whom letters speak of: a digit of one for each of the owner, the group and the others. -/
def whose (letters : List Char) : Nat :=
  let part (letter : Char) (value : Nat) : Nat :=
    if letters.contains letter || letters.contains 'a' then value else 0
  if letters.isEmpty then 73 else part 'u' 64 + part 'g' 8 + part 'o' 1

def rightsNamed (rights : Nat) (letters : List Char) : Nat :=
  letters.foldl (fun named letter => named ||| (match letter with
    | 'r' => 4
    | 'w' => 2
    | 'x' => 1
    | 'u' => rights / 64 % 8
    | 'g' => rights / 8 % 8
    | 'o' => rights % 8
    | 'X' => if rights &&& 73 = 0 then 0 else 1
    | _ => 0)) 0

/-- The rights after what a text of letters and signs says about those that there were. No more
steps are taken than `count`. -/
def rightsAfter (rights : Nat) : (count : Nat) → (people : Option (List Char)) → (now : Nat) →
    ByteText → Option Nat
  | 0, _, _, _ => none
  | _, _, now, [] => some now
  | count + 1, people, now, text => do
    let given := text.takeWhile "augo".toList.contains
    let people := people.getD [] ++ given
    let whom := whose people
    match text.drop given.length with
    | sign :: rest =>
      let letters := rest.takeWhile "rwxugoXs".toList.contains
      let named := whom * rightsNamed rights letters
      let now ← match sign with
        | '-' => some (now - (now &&& named))
        | '=' => some ((now - (now &&& whom * 7)) ||| named)
        | '+' => some (now ||| named)
        | _ => none
      match rest.drop letters.length with
      | [] => some now
      | ',' :: rest => rightsAfter rights count none now rest
      | next :: rest =>
        if "=+-".toList.contains next then
          rightsAfter rights count (some (if people.isEmpty then ['a'] else people)) now (next :: rest)
        else none
    | [] => none

def umaskCommand (args : List ByteText) : Eval Nat := do
  let (options, args) ← takeOptions [('S', false)] args
  let mask := (← process).mask
  match args with
  | [] =>
    if options.isEmpty then
      let digits := Nat.toDigits 8 mask
      say (List.replicate (4 - digits.length) '0' ++ digits ++ ['\n'])
    else
      say (ofString ("u=" ++ rightsLeft (mask / 64) ++ ",g=" ++ rightsLeft (mask / 8) ++ ",o=" ++
        rightsLeft mask ++ "\n"))
  | word :: _ =>
    if word.head?.any Char.isDigit then
      if word.all isOctal then
        change fun p => { p with mask := numberOf 8 word % 512 }
        return 0
      else badNumber word
    else
      match rightsAfter (511 - mask) (word.length + 1) none (511 - mask) word with
      | some rights => do
        change fun p => { p with mask := 511 - rights }
        return 0
      | none => fault (ofString "Illegal mode: " ++ word)

/-! ## Conditions -/

def answersIn (s : State) : Condition.Answers where
  about letter word :=
    let node := s.process.node? s.world word
    match letter, node with
    | 'd', some (.folder _) => true
    | 'd', _ => false
    | 'f', some (.file _ _ _) => true
    | 'f', _ => false
    | 's', some (.file bytes _ _) => !bytes.isEmpty
    | 's', some (.folder _) => true
    | 's', _ => false
    | 'x', some (.file _ executable _) => executable
    | 'x', some (.folder _) => true
    | 'x', _ => false
    | 'c', some (.device _ _) => true
    | letter, some _ => ['e', 'r', 'w', 'O', 'G'].contains letter
    | _, none => false
  between operator a b :=
    let time (word : ByteText) : Option Nat :=
      (s.process.node? s.world word).map FileNode.modified
    match operator, time a, time b with
    | "-nt", some x, some y => y < x
    | "-ot", some x, some y => x < y
    | "-ef", some _, some _ =>
      (s.world.files.resolve s.process.folder (pathOf a)).toOption ==
        (s.world.files.resolve s.process.folder (pathOf b)).toOption
    | _, _, _ => false

def testCommand (args : List ByteText) : Eval Nat := do
  match Condition.holds (answersIn (← get)) args with
  | .ok found => return if found then 0 else 1
  | .error text => fault text

def bracketCommand (args : List ByteText) : Eval Nat := do
  if args.getLast? == some [']'] then testCommand args.dropLast else fault "missing ]".toList

/-! ## Programs -/

/-- Where a program is that a name stands for, or why there is none. Without a slash it is looked
for in the folders of the search path. -/
def findProgram (s : State) (name : ByteText) : Except FileFault ByteText :=
  if name.contains '/' then .ok name
  else
    let folders := piecesAt ':' ((s.process.value? "PATH".toList).getD [])
    let paths := folders.map fun folder =>
      if folder.isEmpty then name else folder ++ '/' :: name
    let isProgram (path : ByteText) : Bool :=
      match s.process.node? s.world path with
      | some (.file _ executable _) => executable
      | _ => false
    match paths.find? isProgram with
    | some path => .ok path
    | none =>
      if paths.any fun path => (s.process.node? s.world path).isSome then .error .notAllowed
      else .error .missing

end OcamlAssist.Script.Builtin
