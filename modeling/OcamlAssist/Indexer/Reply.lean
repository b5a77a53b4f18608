-- What comes back from a call of the index tool: its text, or the reason that
-- there is none.
import OcamlAssist.Indexer.Invocation

namespace OcamlAssist

def indexerName : String := "ocp-index"

inductive LookupFault where
  | toolMissing
  | toolReported (text : String)
  | noQuery
  /-- The program at this path could not be started. -/
  | cannotStart (program : Path) (reason : String)
  deriving DecidableEq, Repr

def LookupFault.message : LookupFault → String
  | .toolMissing => indexerName ++ " not found on PATH or in the opam bin directory"
  | .toolReported text => text
  | .noQuery => "no query at cursor"
  | .cannotStart program reason => "failed to run " ++ program ++ ": " ++ reason

abbrev Reply := Except LookupFault String

/-- A question whose answer waits for one reply of the index tool. -/
structure Lookup (α : Type) where
  invocation : Invocation
  answer : Reply → α

/-- An index tool whose replies may depend on what it was asked before. -/
abbrev Indexer (σ : Type) := σ → Invocation → Reply × σ

end OcamlAssist
