-- The words of the command line: options anywhere, and the rest in order. The
-- word after an option with a value is that value, whatever it looks like.
import OcamlAssist.Path

namespace OcamlAssist.Cli

structure Arguments where
  positional : List String := []
  config : Option Path := none
  /-- What is typed before the place, if it is said. -/
  typed : Option String := none
  json : Bool := false
  deriving DecidableEq, Repr

inductive ArgumentFault where
  | unknownOption (word : String)
  | configNeedsPath
  | typedNeedsValue
  deriving DecidableEq, Repr

def ArgumentFault.message : ArgumentFault → String
  | .unknownOption word => "unknown option " ++ word
  | .configNeedsPath => "--config needs a path"
  | .typedNeedsValue => "--prefix needs a value"

namespace Arguments

def isOption (word : String) : Bool := ['-', '-'].isPrefixOf word.toList

/-- Adds what stands in front: of one option given twice, the later one counts. -/
def withConfig (a : Arguments) (path : Path) : Arguments :=
  { a with config := a.config.or (some path) }

def withTyped (a : Arguments) (value : String) : Arguments :=
  { a with typed := a.typed.or (some value) }

def read : List String → Except ArgumentFault Arguments
  | [] => .ok {}
  | "--json" :: rest => (read rest).map fun a => { a with json := true }
  | ["--config"] => .error .configNeedsPath
  | "--config" :: path :: rest => (read rest).map (·.withConfig path)
  | ["--prefix"] => .error .typedNeedsValue
  | "--prefix" :: value :: rest => (read rest).map (·.withTyped value)
  | word :: rest =>
    if isOption word then .error (.unknownOption word)
    else (read rest).map fun a => { a with positional := word :: a.positional }

end Arguments

end OcamlAssist.Cli
