-- Views: a document as the host editor shows it, under a buffer number and
-- with syntax scopes that may differ from place to place.
import OcamlAssist.View.Document

namespace OcamlAssist

/-- The number of a buffer. Two views of one buffer share it. -/
structure BufferId where
  number : Nat
  deriving DecidableEq, Repr

def BufferId.name (id : BufferId) : String := "BufferId(" ++ toString id.number ++ ")"

def BufferId.supply (first : BufferId) (count : Nat) : List BufferId :=
  (List.range count).map fun i => ⟨first.number + i⟩

/-- A scope that a stretch of text has instead of the document's own. -/
structure ScopeSpan where
  start : Nat
  stop : Nat
  scope : String
  deriving DecidableEq, Repr

def ScopeSpan.holds (span : ScopeSpan) (offset : Nat) : Bool :=
  span.start ≤ offset && offset < span.stop

structure View where
  id : BufferId
  document : Document
  spans : List ScopeSpan := []
  deriving DecidableEq, Repr

namespace View

/-- The scope name at an offset: that of the first span there, or the document's own. -/
def scopeAt (v : View) (offset : Nat) : String :=
  match v.spans.find? (·.holds offset) with
  | some span => span.scope
  | none => v.document.scope ++ " "

def isOcamlAt (v : View) (offset : Nat) : Bool := Scope.isOcaml (v.scopeAt offset)

def ocamlSelection? (v : View) : Option Region :=
  v.document.selections.head?.filter fun region => v.isOcamlAt region.first

end View

end OcamlAssist
