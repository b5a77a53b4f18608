-- The completion list for a place: fixed entries, then what the index tool
-- offers, then the names that the buffer binds. A lookup that fails shows its
-- reason as an entry, and only the wildcard stands in front of it.
import OcamlAssist.Completion.Listing
import OcamlAssist.Completion.Category
import OcamlAssist.Indexer.Reply
import OcamlAssist.Query.Basic

namespace OcamlAssist.Completion

/-- What is typed when any value will do. -/
def wildcard : String := "_"

/-- Entries that the index tool never offers. -/
def builtins : (typed : String) → List Item
  | "_" => [⟨"_\t wildcard", "_", .keyword, .builtin⟩]
  | "in" => [⟨"in\tkeyword", "in", .keyword, .builtin⟩]
  | _ => []

def localItem (name : String) : Item := ⟨name ++ "\tlet", name, .variable, .buffer⟩

def localItems (names : List String) : List Item := names.map localItem

def faultItem (fault : LookupFault) : Item := ⟨fault.message, fault.message, .text, .fault⟩

def items (typed : String) (names : Option (List String)) : Reply → List Item
  | .ok output => builtins typed ++ Listing.entries output typed ++ localItems (names.getD [])
  | .error fault => (if typed = wildcard then builtins typed else []) ++ [faultItem fault]

def invocation (d : Document) (includes : List Path) (query : Query) : Invocation :=
  { command := .complete
    includes
    moduleName := query.moduleName
    query := query.token
    context := query.context
    extraArgs := (CategoryFilter.forFile d.path).args
    buildDir := query.settings.buildDir }

/-- The completion at a place, if a token ends there. -/
def lookup? (d : Document) (location : Nat) (typed : String) (includes : List Path)
    (names : Option (List String)) : Option (Lookup CompletionList) :=
  (Query.at? d location).map fun query =>
    { invocation := invocation d includes query
      answer := fun reply => .alone (items typed names reply) }

end OcamlAssist.Completion
