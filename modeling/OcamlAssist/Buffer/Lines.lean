-- Lines of a text. A line keeps its line break, so the lines of a text, one
-- after the other, are the text again. A carriage return with a line feed
-- right after it is one break; so is either alone, and so are five more
-- characters.
namespace OcamlAssist.Buffer

/-- Characters that end a line: line feed, vertical tab, form feed, carriage return, next line,
line separator and paragraph separator. -/
def isLineBreak (c : Char) : Bool :=
  ('\n' ≤ c && c ≤ '\r') || c == '\u0085' || c == '\u2028' || c == '\u2029'

def consLine (c : Char) : List (List Char) → List (List Char)
  | [] => [[c]]
  | line :: others => (c :: line) :: others

/-- The lines of a text, each with its break. The last line has none and may be empty. -/
def lines : List Char → List (List Char)
  | [] => [[]]
  | '\r' :: '\n' :: rest => ['\r', '\n'] :: lines rest
  | c :: rest => if isLineBreak c then [c] :: lines rest else consLine c (lines rest)

/-- Offset of the start of a line; past the last line it is the length of the text. -/
def startOf (lines : List (List Char)) (line : Nat) : Nat :=
  (lines.take line).flatten.length

/-- The length that a line shows: line feeds and carriage returns at its end do not count. -/
def shownLength (line : List Char) : Nat :=
  line.length - (line.reverse.takeWhile fun c => c == '\n' || c == '\r').length

/-- Line and column of an offset, counted from the first of `lines`. An offset between the two
characters of a break belongs to the line that the break ends. -/
def locate : (lines : List (List Char)) → (offset : Nat) → Nat × Nat
  | [], offset => (0, offset)
  | [_], offset => (0, offset)
  | line :: next :: others, offset =>
    if offset < line.length then (0, offset)
    else
      let (row, column) := locate (next :: others) (offset - line.length)
      (row + 1, column)

/-! ## What the lines are -/

theorem lines_ne_nil (text : List Char) : lines text ≠ [] := by
  fun_cases lines text with
  | case1 => simp
  | case2 => simp
  | case3 => simp
  | case4 => unfold consLine; split <;> simp

theorem flatten_consLine (c : Char) (ls : List (List Char)) :
    (consLine c ls).flatten = c :: ls.flatten := by
  cases ls <;> simp [consLine]

theorem flatten_lines (text : List Char) : (lines text).flatten = text := by
  fun_induction lines text with
  | case1 => rfl
  | case2 rest ih => simp [ih]
  | case3 c rest _ _ ih => simp [ih]
  | case4 c rest _ _ ih => rw [flatten_consLine, ih]

end OcamlAssist.Buffer
