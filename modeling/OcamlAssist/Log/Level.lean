-- Levels of the log, and the names that people write for them. Names are read
-- without regard to case or to white space around them.
import OcamlAssist.Text.Split
import OcamlAssist.Text.Decimal

namespace OcamlAssist

open OcamlAssist.Text

/-- How much is written to the log: each level takes in those before it. -/
inductive LogLevel where
  | off
  | error
  | warn
  | info
  | debug
  | trace
  deriving DecidableEq, Repr

namespace LogLevel

def name : LogLevel → String
  | .off => "off"
  | .error => "error"
  | .warn => "warn"
  | .info => "info"
  | .debug => "debug"
  | .trace => "trace"

def rank : LogLevel → Nat
  | .off => 0
  | .error => 1
  | .warn => 2
  | .info => 3
  | .debug => 4
  | .trace => 5

def ofRank? : Nat → Option LogLevel
  | 0 => some .off
  | 1 => some .error
  | 2 => some .warn
  | 3 => some .info
  | 4 => some .debug
  | 5 => some .trace
  | _ => none

def lowerLetter (c : Char) : Char := c.toLower

/-- The level that a text in lower case names outright. The empty text names errors. -/
def ofName? : String → Option LogLevel
  | "" => some .error
  | "off" => some .off
  | "error" => some .error
  | "warn" => some .warn
  | "info" => some .info
  | "debug" => some .debug
  | "trace" => some .trace
  | _ => none

def read? (text : List Char) : Option LogLevel :=
  match readNumber text with
  | .ok rank => ofRank? rank
  | .error _ => ofName? (String.ofList (text.map lowerLetter))

/-- The word that a name is read by: without white space around it, in lower case. -/
def wordOf (name : String) : List Char := (trim name.toList).map lowerLetter

/-- The level that a word asks for. A few more words are known here than to `read?`, and a word that
is not known asks for the usual level. -/
def ofWord (word : List Char) : LogLevel :=
  match String.ofList word with
  | "warning" => .warn
  | "none" => .off
  | "disabled" => .off
  | _ => (read? word).getD .info

def ofSetting (name : String) : LogLevel := ofWord (wordOf name)

end LogLevel

structure LogSettings where
  enabled : Bool := true
  /-- The last level that is written. -/
  level : LogLevel := .info
  retentionHours : Nat := 24
  deriving DecidableEq, Repr

namespace LogSettings

def isActive (s : LogSettings) : Bool := s.enabled && s.level != .off

/-- The age in nanoseconds past which log files go. -/
def maxAge (s : LogSettings) : Nat := s.retentionHours * 3600 * 1000000000

end LogSettings

end OcamlAssist
