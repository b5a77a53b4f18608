-- What the log says about the events of a session.
import OcamlAssist.Session.Basic

namespace OcamlAssist.Session

def detail (origin : LogOrigin) (message : String) : LogRecord := ⟨.debug, origin, message⟩

def rescanNotes (v : View) : List LogRecord :=
  ((boundNames? v).map fun names =>
    (⟨.info, .session, "Found " ++ toString names.length ++ " local name(s) in buffer " ++ v.id.name⟩ :
      LogRecord)).toList

def closeNotes (s : Session) (v : View) : List LogRecord :=
  if s.locals.contains v.id then [detail .session ("Dropped locals for buffer " ++ v.id.name)] else []

/-- The note about a place where a completion is asked for and no token ends. -/
def refusalNotes (v : View) (locations : List Nat) : List LogRecord :=
  ((completionPlace? v locations).bind fun location =>
    if (Query.at? v.document location).isNone then
      some (detail .completion
        ("No completion at " ++ toString location ++ ": " ++ LookupFault.noQuery.message))
    else none).toList

def completionNotes (typed : String) : Reply → List LogRecord
  | .ok output =>
    let count := (Listing.entries output typed).length
    [detail .completion (toString count ++ " completion(s) from " ++ indexerName)]
  | .error _ => []

def typeNotes (token : String) : Reply → List LogRecord
  | .ok _ => []
  | .error fault =>
    [detail .session ("Type lookup for " ++ token ++ " failed: " ++ fault.message)]

end OcamlAssist.Session
