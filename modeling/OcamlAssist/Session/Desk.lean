-- Runs of events: views that a host editor opens, changes and asks about, with
-- one session and one index tool behind all of them.
import OcamlAssist.Session.Basic

namespace OcamlAssist

inductive Event where
  | loaded
  | saved
  | closed
  | selectionMoved
  | completionAsked (typed : String) (locations : List Nat)
  | typeShown
  | typeAsked (region : Region)
  | cursorSet (offset : Nat)
  | statusSet (key text : String)
  | statusErased (key : String)
  deriving DecidableEq, Repr

inductive Answer where
  | nothing
  | completion (list : Option CompletionList)
  | message (text : Option String)
  | selections (regions : List Region)
  deriving DecidableEq, Repr

/-- An event's effect on a session and a view, its answer, and the calls that it made. -/
structure Turn (σ : Type) where
  session : Session
  view : View
  tool : σ
  answer : Answer := .nothing
  calls : List Invocation := []

namespace Turn

variable {σ : Type}

def ask {α : Type} (indexer : Indexer σ) (tool : σ) :
    Option (Lookup α) → Option α × List Invocation × σ
  | none => (none, [], tool)
  | some lookup =>
    let (reply, tool) := indexer tool lookup.invocation
    (some (lookup.answer reply), [lookup.invocation], tool)

def take (indexer : Indexer σ) (session : Session) (view : View) (tool : σ) : Event → Turn σ
  | .loaded => { session := session.rescan view, view, tool }
  | .saved => { session := session.rescan view, view, tool }
  | .closed => { session := session.close view, view, tool }
  | .selectionMoved => { session, view := Session.withoutMessage view, tool }
  | .completionAsked typed locations =>
    let (list, calls, tool) := ask indexer tool (session.complete? view typed locations)
    { session, view, tool, answer := .completion list, calls }
  | .typeShown =>
    let (message, calls, tool) := ask indexer tool (session.shownType? view)
    let view := message.elim view (Session.withMessage view)
    { session, view, tool, answer := .message message, calls }
  | .typeAsked region =>
    let (message, calls, tool) := ask indexer tool (session.type? view region)
    { session, view, tool, answer := .message message, calls }
  | .cursorSet offset =>
    let document := view.document.setCursor offset
    { session, view := { view with document }, tool, answer := .selections document.selections }
  | .statusSet key text =>
    { session, view := { view with document := view.document.setStatus key text }, tool }
  | .statusErased key =>
    { session, view := { view with document := view.document.eraseStatus key }, tool }

end Turn

/-- The views of a host editor by name, the session behind them, and the index tool. -/
structure Desk (σ : Type) where
  session : Session
  tool : σ
  views : List (String × View) := []

/-- What a host does: it opens a view under a name, or something happens to a view. -/
inductive Step where
  | opened (name : String) (view : View)
  | event (name : String) (event : Event)
  deriving DecidableEq, Repr

structure StepResult where
  answer : Answer
  calls : List Invocation
  deriving DecidableEq, Repr

namespace Desk

variable {σ : Type}

def view? (desk : Desk σ) (name : String) : Option View := desk.views.lookup name

def put (desk : Desk σ) (name : String) (view : View) : Desk σ :=
  { desk with views := (name, view) :: desk.views.filter (·.1 != name) }

/-- One step. An event on a view that is not there does nothing. -/
def step (indexer : Indexer σ) (desk : Desk σ) : Step → Desk σ × StepResult
  | .opened name view => (desk.put name view, ⟨.nothing, []⟩)
  | .event name event =>
    match desk.view? name with
    | none => (desk, ⟨.nothing, []⟩)
    | some view =>
      let turn := Turn.take indexer desk.session view desk.tool event
      let desk := { desk with session := turn.session, tool := turn.tool }
      (desk.put name turn.view, ⟨turn.answer, turn.calls⟩)

def run (indexer : Indexer σ) (desk : Desk σ) : List Step → Desk σ × List StepResult
  | [] => (desk, [])
  | first :: rest =>
    let (desk, result) := desk.step indexer first
    let (desk, results) := desk.run indexer rest
    (desk, result :: results)

end Desk

end OcamlAssist
