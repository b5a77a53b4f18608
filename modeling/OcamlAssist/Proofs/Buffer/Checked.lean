-- Computations on offsets as a machine makes them: a sum has to fit in a word,
-- a difference must not go below zero, and a look-up must stay inside the text.
-- A computation that breaks one of these rules has no result. Each one below has
-- the name of the library's function that it checks, and gives that function's
-- answer for any offset whatever, if the length of the text fits in a word.
import OcamlAssist.Proofs.Buffer.Columns
import OcamlAssist.Proofs.Buffer.Words
import OcamlAssist.Text.Decimal
import OcamlAssist.View.Document

namespace OcamlAssist.Checked

open OcamlAssist.Chars OcamlAssist.Text

/-! ## Steps that can go wrong -/

/-- A sum, if a word holds it. -/
def add (m n : Nat) : Option Nat := if m + n < wordLimit then some (m + n) else none

/-- A difference, if it is not below zero. -/
def sub (m n : Nat) : Option Nat := if n ≤ m then some (m - n) else none

/-- The characters from an offset on, if the offset is not behind the end. -/
def charsFrom (text : List Char) (offset : Nat) : Option (List Char) :=
  if offset ≤ text.length then some (text.drop offset) else none

/-- The characters in front of an offset, the nearest one first. -/
def charsBack (text : List Char) (offset : Nat) : Option (List Char) :=
  if offset ≤ text.length then some (text.take offset).reverse else none

/-- The characters between two offsets, if these are in order and not behind the end. -/
def charsBetween (text : List Char) (start stop : Nat) : Option (List Char) :=
  if start ≤ stop ∧ stop ≤ text.length then some ((text.take stop).drop start) else none

/-- The row of an offset, if the offset is not behind the end. -/
def rowAt (b : Buffer) (offset : Nat) : Option Nat :=
  if offset ≤ b.length then some (Buffer.locate (Buffer.lines b.chars) offset).1 else none

/-- Where a row starts. The row behind the last one starts at the end, and there are no more. -/
def rowStart (b : Buffer) (row : Nat) : Option Nat :=
  if row ≤ b.lineCount then some (Buffer.startOf (Buffer.lines b.chars) row) else none

theorem add_eq {m n length : Nat} (hheld : length < wordLimit) (h : m + n ≤ length) :
    add m n = some (m + n) :=
  if_pos (Nat.lt_of_le_of_lt h hheld)

theorem sub_eq {m n : Nat} (h : n ≤ m) : sub m n = some (m - n) := if_pos h

theorem rowStart_of_le {b : Buffer} {row : Nat} (h : row ≤ b.lineCount) :
    rowStart b row = some (b.lineStart row) :=
  if_pos h

theorem rowStart_of_lt {b : Buffer} {row : Nat} (h : b.lineCount < row) : rowStart b row = none :=
  if_neg (Nat.not_le_of_lt h)

/-! ## Lines and columns -/

def lineLength (b : Buffer) (row : Nat) : Option Nat :=
  match (Buffer.lines b.chars)[row]? with
  | some line => do
    -- What the line does not show is at its end, so it is counted from there.
    let back ← charsBack line line.length
    sub line.length (back.takeWhile fun c => c == '\n' || c == '\r').length
  | none => some 0

/-- To ask for a line that is not there is no fault. -/
def lineStart (b : Buffer) (row : Nat) : Nat := (rowStart b row).getD b.length

def offsetOf (b : Buffer) (position : Position) : Option Nat :=
  match rowStart b position.line with
  | some start => do
    let length ← lineLength b position.line
    add start (min position.column length)
  | none => some b.length

def positionOf (b : Buffer) (offset : Nat) : Option Position := do
  let row ← rowAt b (b.clamp offset)
  let start ← rowStart b row
  let column ← sub (b.clamp offset) start
  return ⟨row, column⟩

theorem lineLength_eq (b : Buffer) (row : Nat) : lineLength b row = some (b.lineLength row) := by
  unfold lineLength Buffer.lineLength
  cases (Buffer.lines b.chars)[row]? with
  | none => rfl
  | some line =>
    have hhidden : (line.reverse.takeWhile fun c => c == '\n' || c == '\r').length ≤ line.length := by
      simpa using (List.takeWhile_prefix (l := line.reverse) _).length_le
    simpa [charsBack, Buffer.shownLength] using sub_eq hhidden

theorem lineStart_eq (b : Buffer) (row : Nat) : lineStart b row = b.lineStart row := by
  unfold lineStart
  rcases Nat.lt_or_ge b.lineCount row with hbehind | hrow
  · rw [rowStart_of_lt hbehind]
    exact (Buffer.startOf_of_length_le (Nat.le_of_lt hbehind)).symm
  · rw [rowStart_of_le hrow]
    rfl

theorem offsetOf_eq {b : Buffer} (hheld : b.length < wordLimit) (position : Position) :
    offsetOf b position = some (b.offsetOf position) := by
  unfold offsetOf
  rcases Nat.lt_or_ge b.lineCount position.line with hbehind | hrow
  · have hend : b.lineStart position.line = b.length :=
      Buffer.startOf_of_length_le (Nat.le_of_lt hbehind)
    simp [rowStart_of_lt hbehind, Buffer.offsetOf, hend,
      Buffer.lineLength_of_lineCount_le (Nat.le_of_lt hbehind)]
  · simp only [rowStart_of_le hrow, lineLength_eq, Option.bind_eq_bind, Option.bind_some]
    exact add_eq hheld (b.offsetOf_le_length position)

theorem positionOf_eq (b : Buffer) (offset : Nat) :
    positionOf b offset = some (b.positionOf offset) := by
  have hrowAt : rowAt b (b.clamp offset) = some (b.positionOf offset).line :=
    if_pos (b.clamp_le_length offset)
  have hrow := Nat.le_of_lt (b.positionOf_line_lt offset)
  have hplace := b.lineStart_add_column offset
  have hcolumn : sub (b.clamp offset) (b.lineStart (b.positionOf offset).line) =
      some (b.positionOf offset).column := by
    rw [sub_eq (by omega), ← hplace, Nat.add_sub_cancel_left]
  simp [positionOf, hrowAt, rowStart_of_le hrow, hcolumn]

-- A row is there to find only because the offset is brought inside the text first.
example : rowAt (Buffer.ofString "a") 2 = none ∧
    positionOf (Buffer.ofString "a") 2 = some ⟨0, 1⟩ := by
  decide +kernel

/-! ## Characters and words -/

def slice (b : Buffer) (start stop : Nat) : Option (List Char) :=
  charsBetween b.chars (min start (b.clamp stop)) (b.clamp stop)

def wordEnd (b : Buffer) (offset : Nat) : Option Nat := do
  let rest ← charsFrom b.chars (b.clamp offset)
  add (b.clamp offset) (rest.takeWhile isWord).length

def wordStart (b : Buffer) (offset : Nat) : Option Nat := do
  let back ← charsBack b.chars (b.clamp offset)
  sub (b.clamp offset) (back.takeWhile isWord).length

def wordBefore (b : Buffer) (offset : Nat) : Option String := do
  let start ← wordStart b offset
  let word ← slice b start offset
  return String.ofList word

theorem slice_eq (b : Buffer) (start stop : Nat) :
    slice b start stop = some (b.slice start stop) := by
  have hinside : min start (b.clamp stop) ≤ b.clamp stop ∧ b.clamp stop ≤ b.chars.length :=
    ⟨Nat.min_le_right _ _, b.clamp_le_length stop⟩
  unfold slice charsBetween Buffer.slice
  rw [if_pos hinside, List.drop_take]

theorem wordEnd_eq {b : Buffer} (hheld : b.length < wordLimit) (offset : Nat) :
    wordEnd b offset = some (b.wordEnd offset) := by
  have hrest : charsFrom b.chars (b.clamp offset) = some (b.chars.drop (b.clamp offset)) :=
    if_pos (b.clamp_le_length offset)
  unfold wordEnd
  rw [hrest]
  exact add_eq hheld (b.wordEnd_le_length offset)

theorem wordStart_eq (b : Buffer) (offset : Nat) :
    wordStart b offset = some (b.wordStart offset) := by
  have hback : charsBack b.chars (b.clamp offset) = some (b.chars.take (b.clamp offset)).reverse :=
    if_pos (b.clamp_le_length offset)
  have hword := (List.takeWhile_prefix (l := (b.chars.take (b.clamp offset)).reverse) isWord).length_le
  rw [List.length_reverse, Buffer.length_take_clamp] at hword
  unfold wordStart
  rw [hback]
  exact sub_eq hword

theorem wordBefore_eq (b : Buffer) (offset : Nat) :
    wordBefore b offset = some (b.wordBefore offset) := by
  simp [wordBefore, wordStart_eq, slice_eq, Buffer.wordBefore]

/-! ## Documents -/

def line (d : Document) (offset : Nat) : Option Region := do
  let place ← positionOf d.buffer offset
  let start := lineStart d.buffer place.line
  let length ← lineLength d.buffer place.line
  let stop ← add start length
  return ⟨start, stop⟩

def substr (d : Document) (region : Region) : Option (List Char) :=
  slice d.buffer region.first region.last

theorem line_eq {d : Document} (hheld : d.length < wordLimit) (offset : Nat) :
    line d offset = some (d.line offset) := by
  have hstop := Buffer.lineStart_add_le_length (d.buffer.positionOf_line_lt offset) (Nat.le_refl _)
  simp [line, positionOf_eq, lineStart_eq, lineLength_eq, add_eq hheld hstop, Document.line]

theorem substr_eq (d : Document) (region : Region) : substr d region = some (d.substr region) :=
  slice_eq d.buffer region.first region.last

end OcamlAssist.Checked
