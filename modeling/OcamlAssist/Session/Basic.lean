-- The assistant in a host editor: it keeps the names that each buffer binds,
-- and turns a host's questions into lookups. What a question needs is settled
-- before the index tool is asked, so a question that is not answered asks
-- nothing, and one that is answered asks once.
import OcamlAssist.Completion.Basic
import OcamlAssist.Locals.Cache
import OcamlAssist.Locals.Scan
import OcamlAssist.Log.Record

namespace OcamlAssist

def statusKey : String := "OCaml Autocompletion"

structure Session where
  locals : LocalCache := {}
  /-- Directories to look in for views without folders. -/
  fallbackFolders : List Path := []
  deriving DecidableEq, Repr

namespace Session

def includes (s : Session) (v : View) : List Path :=
  if v.document.folders.isEmpty then s.fallbackFolders else v.document.folders

/-! ## Names of a buffer -/

def boundNames? (v : View) : Option (List String) :=
  v.ocamlSelection?.map fun _ => Locals.scan v.document.buffer.text

def rescan (s : Session) (v : View) : Session :=
  match boundNames? v with
  | some names => { s with locals := s.locals.insert v.id names }
  | none => s

def close (s : Session) (v : View) : Session := { s with locals := s.locals.erase v.id }

/-! ## Completion -/

/-- The place that a completion is asked for: there is one, and it is in OCaml text. -/
def completionPlace? (v : View) : (locations : List Nat) → Option Nat
  | [location] => if v.isOcamlAt location then some location else none
  | _ => none

def complete? (s : Session) (v : View) (typed : String) (locations : List Nat) :
    Option (Lookup CompletionList) :=
  (completionPlace? v locations).bind fun location =>
    Completion.lookup? v.document location typed (s.includes v) (s.locals.get? v.id)

/-! ## Types -/

/-- Passes over the marks from an offset on, with the word behind each of them. -/
def pastMarks (b : Buffer) (offset : Nat) : Nat :=
  if h : offset < b.chars.length then
    if b.chars[offset] ∈ ['_', '#', '\''] then
      pastMarks b
        (if b.charAt (offset + 1) = some ' ' then offset + 1 else b.wordEnd (offset + 1))
    else offset
  else offset
  termination_by b.chars.length - offset
  decreasing_by
    have := b.le_wordEnd (show offset + 1 ≤ b.length from h)
    split <;> omega

/-- The place that a type is asked from: the end of the identifier that a region ends in. -/
def typePlace (b : Buffer) (region : Region) : Nat := pastMarks b (b.wordEnd region.last)

def unknownType (token : String) : String := "Unknown type: '" ++ token ++ "'"

def typeMessage (token : String) : Reply → String
  | .ok output => if output.isEmpty then unknownType token else "Type: " ++ output
  | .error _ => unknownType token

def typeInvocation (includes : List Path) (query : Query) : Invocation :=
  { command := .type
    includes
    moduleName := query.moduleName
    query := query.token
    context := query.context
    buildDir := query.settings.buildDir }

def type? (s : Session) (v : View) (region : Region) : Option (Lookup String) :=
  (Query.at? v.document (typePlace v.document.buffer region)).map fun query =>
    { invocation := typeInvocation (s.includes v) query
      answer := typeMessage query.token }

/-- The type of the identifier at the first selection, where that is OCaml text. -/
def shownType? (s : Session) (v : View) : Option (Lookup String) :=
  v.ocamlSelection?.bind (s.type? v)

def withMessage (v : View) (message : String) : View :=
  { v with document := v.document.setStatus statusKey message }

def withoutMessage (v : View) : View :=
  { v with document := v.document.eraseStatus statusKey }

end Session

end OcamlAssist
