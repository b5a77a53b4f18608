-- The commands of the shell by name, and what a name stands for.
import OcamlAssist.Script.Builtin.Control
import OcamlAssist.Script.Source

namespace OcamlAssist.Script

open OcamlAssist.Text

structure Call where
  args : List ByteText
  tested : Bool

/-- What sets a command of the shell apart. -/
inductive BuiltinKind where
  /-- A fault in it ends the script, and what is assigned in front of it stays. -/
  | special
  | ordinary
  | wrapper
  deriving DecidableEq

structure Builtin where
  name : String
  kind : BuiltinKind
  action : Runner → Call → Eval Nat
  /-- Whether its words may be assignments. -/
  assigns : Bool := false

namespace Builtin

inductive Meaning where
  | keyword
  | aliased (value : ByteText)
  | function
  | builtin (kind : BuiltinKind)
  | program (path : ByteText)
  | nothing

def describe (atLength : Bool) (name : ByteText) : Meaning → Eval Nat
  | .keyword => say ((if atLength then name ++ ofString " is a shell keyword" else name) ++ ['\n'])
  | .aliased value =>
    if atLength then say (name ++ ofString " is an alias for " ++ value ++ ['\n'])
    else do
      let _ ← say (ofString "alias ")
      showAlias name value
      return 0
  | .function => say ((if atLength then name ++ ofString " is a shell function" else name) ++ ['\n'])
  | .builtin kind =>
    let what := if kind = .special then " is a special shell builtin" else " is a shell builtin"
    say ((if atLength then name ++ ofString what else name) ++ ['\n'])
  | .program path => say ((if atLength then name ++ ofString " is " ++ path else path) ++ ['\n'])
  | .nothing => do
    if atLength then
      let _ ← say (name ++ ofString ": not found\n")
    return 127

/-- What a name stands for, where some names are commands of the shell. -/
def meaningOf (kindOf : ByteText → Option BuiltinKind) (name : ByteText) : Eval Meaning := do
  let s ← get
  let p := s.process
  if Token.keywords.contains (shown name) then return .keyword
  else
    match p.aliases.lookup name with
    | some value => return .aliased value
    | none =>
      if p.functions.any (·.1 == name) then return .function
      else
        match kindOf name with
        | some kind => return .builtin kind
        | none =>
          match findProgram s name with
          | .ok path =>
            if (p.node? s.world path).isSome then return .program path else return .nothing
          | .error _ => return .nothing

def typeCommand (kindOf : ByteText → Option BuiltinKind) (args : List ByteText) : Eval Nat := do
  let found ← args.mapM fun name => do describe true name (← meaningOf kindOf name)
  return found.foldl max 0

def commandCommand (kindOf : ByteText → Option BuiltinKind) (args : List ByteText) : Eval Nat := do
  let (options, words) ← takeOptions [('p', false), ('v', false), ('V', false)] args
  let asks (letter : Char) : Bool := options.any (·.letter == letter)
  match words with
  | name :: _ =>
    if asks 'v' || asks 'V' then describe (asks 'V') name (← meaningOf kindOf name) else return 0
  | [] => return 0

/-- Remembers where programs are; only names of which there are none matter. -/
def hashCommand (kindOf : ByteText → Option BuiltinKind) (args : List ByteText) : Eval Nat := do
  let (_, names) ← takeOptions [('r', false), ('v', false)] args
  let found ← names.mapM fun name => do
    match ← meaningOf kindOf name with
    | .nothing => do
      complain (name ++ ofString ": not found")
      return false
    | _ => return true
  return if found.all id then 0 else 1

def plainCommands : List Builtin :=
  let plain (name : String) (action : List ByteText → Eval Nat) : Builtin :=
    ⟨name, .ordinary, fun _ call => action call.args, false⟩
  let special (name : String) (action : List ByteText → Eval Nat) : Builtin :=
    ⟨name, .special, fun _ call => action call.args, false⟩
  let quiet (status : Nat) (_ : List ByteText) : Eval Nat := return status
  let noJob (_ : List ByteText) : Eval Nat := fault "No current job".toList
  [⟨".", .special, fun r call => dotCommand r call.args, false⟩,
    special ":" (quiet 0),
    plain "[" bracketCommand,
    ⟨"alias", .ordinary, fun _ call => aliasCommand call.args, true⟩,
    plain "bg" noJob,
    special "break" breakCommand,
    plain "cd" cdCommand,
    plain "chdir" cdCommand,
    special "continue" continueCommand,
    plain "echo" echoCommand,
    ⟨"eval", .special, fun r call => evalCommand r call.tested call.args, false⟩,
    ⟨"exec", .special, fun r call => execCommand r call.args, false⟩,
    special "exit" exitCommand,
    ⟨"export", .special, fun _ call => exportCommand call.args, true⟩,
    plain "false" (quiet 1),
    plain "fg" noJob,
    plain "getopts" getoptsCommand,
    plain "jobs" (quiet 0),
    plain "kill" killCommand,
    ⟨"local", .special, fun _ call => localCommand call.args, true⟩,
    plain "printf" printfCommand,
    plain "pwd" pwdCommand,
    plain "test" testCommand,
    ⟨"read", .ordinary, fun r call => readCommand r.turns call.args, false⟩,
    ⟨"readonly", .special, fun _ call => readonlyCommand call.args, true⟩,
    special "return" returnCommand,
    special "set" setCommand,
    special "shift" shiftCommand,
    special "times" (fun _ => say (ofString "0m0.00s 0m0.00s\n0m0.00s 0m0.00s\n")),
    special "trap" trapCommand,
    plain "true" (quiet 0),
    plain "ulimit" (fun _ => say (ofString "unlimited\n")),
    plain "umask" umaskCommand,
    plain "unalias" unaliasCommand,
    special "unset" unsetCommand,
    plain "wait" waitCommand]

def askingNames : List String := ["command", "hash", "type"]

def kindOf (name : ByteText) : Option BuiltinKind :=
  match plainCommands.find? (·.name.toList == name) with
  | some found => some found.kind
  | none => if askingNames.contains (String.ofList name) then some .ordinary else none

def find? (name : ByteText) : Option Builtin :=
  match String.ofList name with
  | "command" => some ⟨"command", .wrapper, fun _ call => commandCommand kindOf call.args, false⟩
  | "hash" => some ⟨"hash", .ordinary, fun _ call => hashCommand kindOf call.args, false⟩
  | "type" => some ⟨"type", .ordinary, fun _ call => typeCommand kindOf call.args, false⟩
  | _ => plainCommands.find? (·.name.toList == name)

end Builtin

end OcamlAssist.Script
