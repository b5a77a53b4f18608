-- Options of commands, and of the shell itself.
import OcamlAssist.Script.Shell

namespace OcamlAssist.Script

open OcamlAssist.Text

/-! ## Options of commands -/

structure GivenOption where
  letter : Char
  argument : ByteText := []

def badOption {α : Type} (letter : Char) : Eval α :=
  fault (ofString "Illegal option -" ++ [letter])

/-- The options that letters stand for, and the words that are left. A letter that takes an argument
takes the letters behind it, or else the next word. -/
def optionsOf (known : List (Char × Bool)) :
    List Char → List ByteText → Eval (List GivenOption × List ByteText)
  | [], words => return ([], words)
  | letter :: letters, words => do
    match known.lookup letter with
    | none => badOption letter
    | some false => do
      let (found, words) ← optionsOf known letters words
      return (⟨letter, []⟩ :: found, words)
    | some true =>
      if !letters.isEmpty then return ([⟨letter, letters⟩], words)
      else
        match words with
        | word :: words => return ([⟨letter, word⟩], words)
        | [] => fault (ofString "No arg for -" ++ [letter] ++ ofString " option")

def optionsUpTo (known : List (Char × Bool)) :
    (count : Nat) → List ByteText → Eval (List GivenOption × List ByteText)
  | 0, words => return ([], words)
  | _, [] => return ([], [])
  | count + 1, word :: words => do
    match word with
    | ['-', '-'] => return ([], words)
    | '-' :: letter :: letters => do
      let (found, words) ← optionsOf known (letter :: letters) words
      let (others, words) ← optionsUpTo known count words
      return (found ++ others, words)
    | _ => return ([], word :: words)

def takeOptions (known : List (Char × Bool)) (words : List ByteText) :
    Eval (List GivenOption × List ByteText) :=
  optionsUpTo known words.length words

def withoutOptions (words : List ByteText) : Eval (List ByteText) := do
  return (← takeOptions [] words).2

/-! ## Options of the shell -/

def shellOptions : List (Char × String) :=
  [('e', "errexit"), ('f', "noglob"), ('I', "ignoreeof"), ('i', "interactive"), ('m', "monitor"),
    ('n', "noexec"), ('s', "stdin"), ('x', "xtrace"), ('v', "verbose"), ('V', "vi"),
    ('E', "emacs"), ('C', "noclobber"), ('a', "allexport"), ('b', "notify"), ('u', "nounset"),
    ('p', "privileged"), ('\x00', "nolog"), ('\x01', "debug")]

def setOption (letter : Char) (on : Bool) : Eval Unit := change fun p =>
  let others := p.options.filter (· != letter)
  { p with options := if on then letter :: others else others }

def setLetter (on : Bool) (letter : Char) : Eval Unit := do
  if shellOptions.any (·.1 == letter) && ' ' < letter then setOption letter on
  else badOption letter

def setName (on : Bool) (name : ByteText) : Eval Unit := do
  match shellOptions.find? fun option => option.2.toList == name with
  | some (letter, _) => setOption letter on
  | none => fault (ofString "Illegal option -o " ++ name)

def showOptions (asTable : Bool) : Eval Unit := do
  let p ← process
  let lines := shellOptions.map fun (letter, name) =>
    let on := p.options.contains letter
    if asTable then
      name ++ String.ofList (List.replicate (16 - name.length) ' ') ++ (if on then "on" else "off")
    else "set " ++ (if on then "-o " else "+o ") ++ name
  let title := if asTable then ["Current option settings"] else []
  let _ ← writeTo 1 (ofString (String.join ((title ++ lines).map (· ++ "\n"))))

/-- What is given to the shell when it is started or set anew. -/
structure GivenSettings where
  command : Bool := false
  words : List ByteText
  /-- Whether the words are the new arguments, even if there are none. -/
  replaces : Bool := false

/-- Carries out the letters of one word. Behind an `o` the next word names an option. -/
def setLetters (atStart on : Bool) :
    List Char → GivenSettings → Eval GivenSettings
  | [], given => return given
  | letter :: letters, given => do
    if letter == 'c' && atStart then setLetters atStart on letters { given with command := true }
    else if letter == 'l' && atStart then setLetters atStart on letters given
    else if letter == 'o' then
      match given.words with
      | [] => do
        showOptions on
        setLetters atStart on letters given
      | name :: words => do
        setName on name
        setLetters atStart on letters { given with words }
    else
      setLetter on letter
      setLetters atStart on letters given

/-- Carries out the options at the start of no more than so many words. A single dash turns off
the showing of commands. -/
def setOptionsUpTo (atStart : Bool) : (count : Nat) → GivenSettings → Eval GivenSettings
  | 0, given => return given
  | count + 1, given => do
    match given.words with
    | ['-'] :: words => do
      if !atStart then
        setOption 'x' false
        setOption 'v' false
      return { given with words }
    | ['-', '-'] :: words => return { given with words, replaces := true }
    | ('-' :: letters) :: words => do
      let given ← setLetters atStart true letters { given with words }
      setOptionsUpTo atStart count given
    | ('+' :: letters) :: words => do
      let given ← setLetters atStart false letters { given with words }
      setOptionsUpTo atStart count given
    | _ => return given

def setOptions (atStart : Bool) (words : List ByteText) : Eval GivenSettings :=
  setOptionsUpTo atStart words.length { words }

end OcamlAssist.Script
