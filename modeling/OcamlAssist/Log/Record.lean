-- Records of the log, and the filter that decides which are written. A filter
-- is a list of directives; of those that fit a record's origin the one with
-- the longest origin decides.
import OcamlAssist.Log.Level

namespace OcamlAssist

open OcamlAssist.Chars OcamlAssist.Text

inductive LogOrigin where
  | logging
  | session
  | indexer
  | completion
  deriving DecidableEq, Repr

def LogOrigin.name : LogOrigin → String
  | .logging => "ocp_complete::logging"
  | .session => "ocp_complete::plugin"
  | .indexer => "ocp_complete::ocp::invoker"
  | .completion => "ocp_complete::completion::formatter"

structure LogRecord where
  level : LogLevel
  origin : LogOrigin
  message : String
  deriving DecidableEq, Repr

namespace LogRecord

def levelLabel : LogLevel → String
  | .off => "  OFF"
  | .error => "ERROR"
  | .warn => " WARN"
  | .info => " INFO"
  | .debug => "DEBUG"
  | .trace => "TRACE"

/-- How a character of a message is written. Characters that a terminal acts on are written as
escapes; the breaks between lines stay. -/
def shownChar (c : Char) : List Char :=
  if ['\x07', '\x08', '\x0c', '\x1b', '\x7f'].contains c then
    '\\' :: 'x' :: Nat.toDigits 16 (c.toNat / 16) ++ Nat.toDigits 16 (c.toNat % 16)
  else if '\u0080' ≤ c ∧ c ≤ '\u009f' then
    '\\' :: 'u' :: '\x7b' :: Nat.toDigits 16 c.toNat ++ ['\x7d']
  else [c]

def text (r : LogRecord) : String :=
  levelLabel r.level ++ " " ++ r.origin.name ++ ": " ++
    String.ofList (r.message.toList.flatMap shownChar)

end LogRecord

/-- How much to write about the origins whose names start with a text. -/
structure LogDirective where
  origin : String
  level : LogLevel
  deriving DecidableEq, Repr

namespace LogDirective

def fits (d : LogDirective) (origin : LogOrigin) : Bool :=
  d.origin.toList.isPrefixOf origin.name.toList

/-- The level behind an origin. An empty one stands for everything. -/
def levelBehind? (text : List Char) : Option LogLevel :=
  if text.isEmpty then some .trace else LogLevel.read? text

def mayStart (c : Char) : Bool := isWord c || c == '-' || c == ':'

/-- The directive that a text stands for: a level for every origin, a level for one, or an origin
about which all is written. White space around a text does not count where its equals sign is
looked for, but it belongs to what stands on either side. -/
def read? (text : List Char) : Option LogDirective :=
  match trim text with
  | [] => some ⟨"", .trace⟩
  | first :: rest =>
    if !mayStart first then none
    else
      match cutAt '=' (first :: rest) with
      | some (before, _) =>
        (levelBehind? (text.drop (before.length + 1))).map fun level =>
          ⟨String.ofList (text.take before.length), level⟩
      | none =>
        match LogLevel.read? text with
        | some level => some ⟨"", level⟩
        | none => some ⟨String.ofList text, .trace⟩

end LogDirective

abbrev LogFilter := List LogDirective

namespace LogFilter

def upTo (level : LogLevel) : LogFilter := [⟨"", level⟩]

def directiveTexts (text : String) : List (List Char) :=
  (piecesAt ',' text.toList).filter (!·.isEmpty)

def ofText (text : String) : LogFilter := (directiveTexts text).filterMap LogDirective.read?

def refusals (text : String) : List String :=
  ((directiveTexts text).filter fun part => (LogDirective.read? part).isNone).map fun part =>
    "ignoring \x60" ++ String.ofList part ++ "\x60: invalid filter directive\n"

/-- The filter of a run: the one asked for, if it says anything, or the level of the
configuration. -/
def choose (asked : Option String) (level : LogLevel) : LogFilter :=
  match (asked.map ofText).getD [] with
  | [] => upTo level
  | filter => filter

/-- The level for an origin: that of the longest directive that fits, the last of several. -/
def levelFor (filter : LogFilter) (origin : LogOrigin) : LogLevel :=
  let best := (filter.filter (·.fits origin)).foldl (fun best d =>
    match best with
    | some b => if b.origin.length ≤ d.origin.length then some d else some b
    | none => some d) none
  (best.map LogDirective.level).getD .off

def admits (filter : LogFilter) (r : LogRecord) : Bool :=
  r.level.rank ≤ (filter.levelFor r.origin).rank

end LogFilter

end OcamlAssist
