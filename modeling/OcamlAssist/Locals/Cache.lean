-- The names of each open buffer, as of the last time it was scanned.
import OcamlAssist.View.Basic

namespace OcamlAssist

/-- Names by buffer. A buffer stands at most once. -/
structure LocalCache where
  entries : List (BufferId × List String) := []
  deriving DecidableEq, Repr

namespace LocalCache

def get? (cache : LocalCache) (id : BufferId) : Option (List String) := cache.entries.lookup id

def erase (cache : LocalCache) (id : BufferId) : LocalCache :=
  ⟨cache.entries.filter (·.1 != id)⟩

def insert (cache : LocalCache) (id : BufferId) (names : List String) : LocalCache :=
  ⟨(id, names) :: (cache.erase id).entries⟩

def contains (cache : LocalCache) (id : BufferId) : Bool := (cache.get? id).isSome

def size (cache : LocalCache) : Nat := cache.entries.length

def isEmpty (cache : LocalCache) : Bool := cache.entries.isEmpty

end LocalCache

end OcamlAssist
