-- The text of a buffer, addressed in characters. Every question has an answer
-- for every offset: one past the end counts as the end.
import OcamlAssist.Buffer.Lines
import OcamlAssist.Chars.Class

namespace OcamlAssist

structure Buffer where
  chars : List Char
  deriving DecidableEq, Repr

/-- A line and a column, both counted from zero. -/
structure Position where
  line : Nat
  column : Nat
  deriving DecidableEq, Repr

namespace Buffer

open OcamlAssist.Chars

def ofString (text : String) : Buffer := ⟨text.toList⟩

def text (b : Buffer) : String := String.ofList b.chars

def length (b : Buffer) : Nat := b.chars.length

def isEmpty (b : Buffer) : Bool := b.length == 0

def clamp (b : Buffer) (offset : Nat) : Nat := min offset b.length

/-! ## Lines -/

/-- The number of lines; an empty buffer has one. -/
def lineCount (b : Buffer) : Nat := (lines b.chars).length

/-- The length that a line shows. A line that is not there shows nothing. -/
def lineLength (b : Buffer) (line : Nat) : Nat :=
  match (lines b.chars)[line]? with
  | some found => shownLength found
  | none => 0

/-- Offset of the start of a line; past the last line it is the end of the text. -/
def lineStart (b : Buffer) (line : Nat) : Nat := startOf (lines b.chars) line

/-- Offset of a position. The column goes no further than the line shows, and a line that is not
there is the end of the text. -/
def offsetOf (b : Buffer) (position : Position) : Nat :=
  b.lineStart position.line + min position.column (b.lineLength position.line)

def positionOf (b : Buffer) (offset : Nat) : Position :=
  let (row, column) := locate (lines b.chars) (b.clamp offset)
  ⟨row, column⟩

/-! ## Characters and words -/

def charAt (b : Buffer) (offset : Nat) : Option Char := b.chars[offset]?

def slice (b : Buffer) (start stop : Nat) : List Char :=
  let stop := b.clamp stop
  let start := min start stop
  (b.chars.drop start).take (stop - start)

/-- The first offset from here on that holds no word character. -/
def wordEnd (b : Buffer) (offset : Nat) : Nat :=
  let offset := b.clamp offset
  offset + ((b.chars.drop offset).takeWhile isWord).length

theorem le_wordEnd (b : Buffer) {offset : Nat} (h : offset ≤ b.length) :
    offset ≤ b.wordEnd offset := by
  unfold wordEnd clamp
  simp only
  omega

def wordStart (b : Buffer) (offset : Nat) : Nat :=
  let offset := b.clamp offset
  offset - ((b.chars.take offset).reverse.takeWhile isWord).length

def wordBefore (b : Buffer) (offset : Nat) : String :=
  String.ofList (b.slice (b.wordStart offset) offset)

end Buffer

end OcamlAssist
