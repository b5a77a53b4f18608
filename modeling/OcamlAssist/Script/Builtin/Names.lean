-- Commands that set and show names: variables, functions, aliases and
-- arguments.
import OcamlAssist.Script.Builtin.Options
import OcamlAssist.Script.Fields

namespace OcamlAssist.Script.Builtin

open OcamlAssist.Text

/-! ## Showing names -/

def quotedWord (text : ByteText) : ByteText :=
  let stretches := piecesAt '\'' text
  let single (stretch : ByteText) : ByteText := '\'' :: stretch ++ ['\'']
  let rec following : (marks : Nat) → List ByteText → ByteText
    | marks, [] => '"' :: List.replicate marks '\'' ++ ['"']
    | marks, [] :: rest => following (marks + 1) rest
    | marks, stretch :: rest =>
      '"' :: List.replicate marks '\'' ++ ['"'] ++ single stretch ++
        (if rest.isEmpty then [] else following 1 rest)
  match stretches with
  | [] => single []
  | [only] => single only
  | first :: rest => single first ++ following 1 rest

def showVariables (word : ByteText) (which : Variable → Bool) : Eval Unit := do
  let found := ((← process).values.filter which).mergeSort fun a b => isBefore a.name b.name
  let line (v : Variable) : ByteText :=
    word ++ v.name ++ (match v.value with
      | some value => '=' :: quotedWord value
      | none => []) ++ ['\n']
  let _ ← writeTo 1 (found.flatMap line)

/-! ## Variables -/

/-- Gives variables a flag, and values where there are any; without names, shows all that have the
flag. -/
def flagCommand (word : String) (hasFlag : Variable → Bool) (setFlag : Variable → Variable)
    (args : List ByteText) : Eval Nat := do
  let (options, names) ← takeOptions [('p', false)] args
  if !options.isEmpty || names.isEmpty then
    showVariables (word ++ " ").toList hasFlag
  else
    names.forM fun name => do
      let (name, value) := match name.findIdx? (· == '=') with
        | some place => (name.take place, some (name.drop (place + 1)))
        | none => (name, none)
      match value, (← process).named? name with
      | none, some found => change (·.putVariable (setFlag found))
      | value, _ => changeVariable name fun v => setFlag { v with value := value.or v.value }
  return 0

def exportCommand : List ByteText → Eval Nat :=
  flagCommand "export" (·.exported) fun v => { v with exported := true }

def readonlyCommand : List ByteText → Eval Nat :=
  flagCommand "readonly" (·.readOnly) fun v => { v with readOnly := true }

def unsetCommand (args : List ByteText) : Eval Nat := do
  let (options, names) ← takeOptions [('v', false), ('f', false)] args
  let functions := options.getLast?.any (·.letter == 'f')
  names.forM fun name =>
    if functions then
      change fun p => { p with functions := p.functions.filter (·.1 != name) }
    else unassign name
  return 0

def localCommand (args : List ByteText) : Eval Nat := do
  if (← process).scopes.isEmpty then fault "not in a function".toList
  args.forM fun arg => do
    if arg == ['-'] then keep (.options (← process).options)
    else
      let (name, value) := match arg.findIdx? (· == '=') with
        | some place => (arg.take place, some (arg.drop (place + 1)))
        | none => (arg, none)
      if !isName name then fault (name ++ ofString ": bad variable name")
      keepVariable name
      match value with
      | some value => assign name value
      | none =>
        if ((← process).named? name).isNone then changeVariable name id
  return 0

/-! ## Arguments -/

def setArguments (words : List ByteText) : Eval Unit :=
  change fun p => { p with arguments := { words } }

def setCommand (args : List ByteText) : Eval Nat := do
  if args.isEmpty then showVariables [] (·.value.isSome)
  else
    let given ← setOptions false args
    if given.replaces || !given.words.isEmpty then setArguments given.words
  return 0

def shiftCommand (args : List ByteText) : Eval Nat := do
  let count ← match args with
    | [] => pure 1
    | count :: _ => countOf count
  let words := (← process).arguments.words
  if words.length < count then fault "can't shift that many".toList
  setArguments (words.drop count)
  return 0

def findOption (known name : ByteText) (words : List ByteText) (index : Nat)
    (offset : Option Nat) : Eval Nat := do
  let rest := words.drop (index - 1)
  let current := match offset with
    | some offset => if index ≤ 1 then [] else ((words[index - 2]?).getD []).drop offset
    | none => []
  -- The letters that are left, the words behind them, and how many words were passed over.
  let (letters, rest, passed) : ByteText × List ByteText × Nat :=
    if !current.isEmpty then (current, rest, 0)
    else
      match rest with
      | ['-', '-'] :: rest => ([], rest, 1)
      | ('-' :: letter :: letters) :: rest => (letter :: letters, rest, 1)
      | rest => ([], rest, 0)
  let finish (found : Char) (index : Nat) (left : ByteText) (isLast : Bool) : Eval Nat := do
    assign "OPTIND".toList (numeral index)
    assign name [found]
    let before := ((words[index - 2]?).getD []).length
    let optionOffset := if left.isEmpty && isLast then none else some (before - left.length)
    change fun p => { p with arguments :=
      { p.arguments with optionIndex := index, optionOffset } }
    return if found == '?' && isLast && letters.isEmpty then 1 else 0
  let index := index + passed
  let quiet := known.head? == some ':'
  match letters with
  | [] => finish '?' index [] true
  | letter :: left =>
    let place := (known.drop (if quiet then 1 else 0)).findIdx? (· == letter)
    match if letter == ':' then none else place with
    | none => do
      if quiet then assign "OPTARG".toList [letter]
      else
        let _ ← writeTo 2 (ofString "Illegal option -" ++ [letter, '\n'])
        unassign "OPTARG".toList
      finish '?' index left false
    | some place =>
      let takes := (known.drop (if quiet then 1 else 0))[place + 1]? == some ':'
      if !takes then
        assign "OPTARG".toList []
        finish letter index left false
      else if !left.isEmpty then
        assign "OPTARG".toList left
        finish letter index [] true
      else
        match rest with
        | argument :: _ => do
          assign "OPTARG".toList argument
          finish letter (index + 1) [] true
        | [] =>
          if quiet then
            assign "OPTARG".toList [letter]
            finish ':' index [] false
          else
            let _ ← writeTo 2 (ofString "No arg for -" ++ [letter] ++ ofString " option\n")
            unassign "OPTARG".toList
            finish '?' index [] false

def getoptsCommand (args : List ByteText) : Eval Nat := do
  match args with
  | known :: name :: given => do
    let arguments := (← process).arguments
    let words := if given.isEmpty then arguments.words else given
    let (index, offset) :=
      if words.length + 1 < arguments.optionIndex then (1, none)
      else (arguments.optionIndex, arguments.optionOffset)
    findOption known name words index offset
  | _ => fault "Usage: getopts optstring var [arg...]".toList

/-! ## Aliases -/

/-- The place of an alias in the order in which they are shown. -/
def aliasRank (name : ByteText) : Nat :=
  name.foldl (fun sum c => sum + c.toNat) ((name.headD '\x00').toNat * 16) % 39

def showAlias (name value : ByteText) : Eval Unit := do
  let _ ← writeTo 1 (name ++ '=' :: quotedWord value ++ ['\n'])

def aliasCommand (args : List ByteText) : Eval Nat := do
  let all := (← process).aliases
  if args.isEmpty then
    (all.reverse.mergeSort fun a b => aliasRank a.1 ≤ aliasRank b.1).forM fun (name, value) =>
      showAlias name value
    return 0
  else
    let found ← args.mapM fun arg => do
      match (arg.drop 1).findIdx? (· == '=') with
      | some place => do
        let name := arg.take (place + 1)
        let others := (← process).aliases
        let known := others.any (·.1 == name)
        let value := arg.drop (place + 2)
        change fun p => { p with aliases :=
          if known then others.map fun a => if a.1 == name then (name, value) else a
          else (name, value) :: others }
        return true
      | none =>
        match (← process).aliases.lookup arg with
        | some value => do
          showAlias arg value
          return true
        | none => do
          let _ ← writeTo 2 (ofString "alias: " ++ arg ++ ofString " not found\n")
          return false
    return if found.all id then 0 else 1

def unaliasCommand (args : List ByteText) : Eval Nat := do
  let (options, names) ← takeOptions [('a', false)] args
  if !options.isEmpty then
    change fun p => { p with aliases := [] }
    return 0
  else
    let found ← names.mapM fun name => do
      let known := (← process).aliases
      if known.any (·.1 == name) then
        change fun p => { p with aliases := known.filter (·.1 != name) }
        return true
      else
        let _ ← writeTo 2 (ofString "unalias: " ++ name ++ ofString " not found\n")
        return false
    return if found.all id then 0 else 1

/-! ## Reading lines -/

/-- A line that is read, as pieces: what a backslash protects is not cut. -/
structure Line where
  /-- The pieces, the last first, and the last atom of each first. -/
  pieces : List Piece := []
  ended : Bool := false

namespace Line

def add (line : Line) (c : Char) (isProtected : Bool) : Line :=
  let splitting : Splitting := if isProtected then .never else .words
  match line.pieces with
  | piece :: pieces =>
    if piece.splitting = splitting && !isProtected then
      { line with pieces := { piece with atoms := .char c isProtected :: piece.atoms } :: pieces }
    else { line with pieces := ⟨[.char c isProtected], splitting⟩ :: piece :: pieces }
  | [] => { line with pieces := [⟨[.char c isProtected], splitting⟩] }

/-- The pieces in order. A piece that is cut stands around every one that is protected. -/
def inOrder (line : Line) : List Piece :=
  ⟨[], .words⟩ :: (line.pieces.reverse.flatMap fun piece =>
    let piece := { piece with atoms := piece.atoms.reverse }
    if piece.splitting = .never then [piece, ⟨[], .words⟩] else [piece])

end Line

/-- Reads a line of no more than so many characters. A backslash protects the next character, and
joins lines. -/
def readLine (isRaw : Bool) : (count : Nat) → (isProtected : Bool) → Line → Eval Line
  | 0, _, line => return line
  | count + 1, isProtected, line => do
    match ← readFrom 0 with
    | none => return line
    | some c =>
      if c == '\x00' then readLine isRaw count isProtected line
      else if isProtected then
        readLine isRaw count false (if c == '\n' then line else line.add c true)
      else if !isRaw && c == '\\' then readLine isRaw count true line
      else if c == '\n' then return { line with ended := true }
      else readLine isRaw count false (line.add c false)

def setFields : List ByteText → List ByteText → Eval Unit
  | [], _ => return ()
  | name :: names, [] => do
    assign name []
    setFields names []
  | name :: names, field :: fields => do
    assign name field
    setFields names fields

def readCommand (turns : Nat) (args : List ByteText) : Eval Nat := do
  let (options, names) ← takeOptions [('p', true), ('r', false)] args
  if names.isEmpty then fault "arg count".toList
  let line ← readLine (options.any (·.letter == 'r')) turns false {}
  let separators := (← process).separators?.getD [' ', '\t', '\n']
  setFields names ((fieldsOf separators (some names.length) line.inOrder).map textOf)
  return if line.ended then 0 else 1

end OcamlAssist.Script.Builtin
