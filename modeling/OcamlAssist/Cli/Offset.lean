-- Places on the command line: an offset in characters, or a line and a column
-- that are counted from one.
import OcamlAssist.Text.Decimal
import OcamlAssist.View.Document

namespace OcamlAssist.Cli

open OcamlAssist.Text

inductive OffsetFault where
  | number (fault : NumberFault)
  /-- The line or the column is zero. -/
  | notOneBased (word : String)
  | outOfBounds (place : OutOfBounds)
  | pastEnd (offset length : Nat)
  deriving DecidableEq, Repr

def OffsetFault.message : OffsetFault → String
  | .number fault => fault.message
  | .notOneBased word => "LINE:COL is 1-based, got " ++ word
  | .outOfBounds place => place.message
  | .pastEnd offset length =>
    "offset " ++ toString offset ++ " past end of file (" ++ toString length ++ " chars)"

def readNumber (text : List Char) : Except OffsetFault Nat :=
  (Text.readNumber text).mapError .number

def readOffset (d : Document) (word : String) : Except OffsetFault Nat :=
  match cutAt ':' word.toList with
  | some (line, column) => do
    let line ← readNumber line
    let column ← readNumber column
    if line = 0 ∨ column = 0 then .error (.notOneBased word)
    else (d.offsetOf (line - 1) (column - 1)).mapError .outOfBounds
  | none => do
    let offset ← readNumber word.toList
    if d.length < offset then .error (.pastEnd offset d.length) else .ok offset

end OcamlAssist.Cli
