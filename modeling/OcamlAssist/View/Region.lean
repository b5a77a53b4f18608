-- A region is a span between two offsets, in either order: the second end is
-- where the cursor stands.
namespace OcamlAssist

/-- A span between an anchor and a cursor. The cursor may come first. -/
structure Region where
  anchor : Nat
  cursor : Nat
  deriving DecidableEq, Repr

namespace Region

def point (offset : Nat) : Region := ⟨offset, offset⟩

def first (r : Region) : Nat := min r.anchor r.cursor

def last (r : Region) : Nat := max r.anchor r.cursor

def isEmpty (r : Region) : Bool := r.anchor == r.cursor

end Region

end OcamlAssist
