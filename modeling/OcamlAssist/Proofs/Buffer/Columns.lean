-- The laws of lines and columns: a line is text without breaks and then a
-- break, except for the last line, which has none. What a line shows follows
-- from the break, and so do the columns that lead back to their offset.
import OcamlAssist.Proofs.Buffer.Places

namespace OcamlAssist.Buffer

/-! ## What a line is -/

/-- No character of the text ends a line. -/
def Plain (text : List Char) : Prop := ∀ c ∈ text, c ∉ breaks

/-- A line break: one character, or a carriage return with a line feed right after it. -/
inductive IsBreak : List Char → Prop
  | one {c : Char} (h : c ∈ breaks) : IsBreak [c]
  | pair : IsBreak ['\r', '\n']

/-- The line of a row is plain text with a break at its end, or without one if it is the last. -/
structure RowIs (ls : List (List Char)) (row : Nat) (body ending : List Char) : Prop where
  line : ls[row]? = some (body ++ ending)
  plain : Plain body
  ends : row + 1 < ls.length ∧ IsBreak ending ∨ row + 1 = ls.length ∧ ending = []

theorem plain_cons {c : Char} {text : List Char} :
    Plain (c :: text) ↔ c ∉ breaks ∧ Plain text := by
  simp [Plain]

theorem RowIs.cons {ls : List (List Char)} {row : Nat} {body ending : List Char}
    (h : RowIs ls row body ending) (line : List Char) :
    RowIs (line :: ls) (row + 1) body ending := by
  refine ⟨by simpa using h.line, h.plain, ?_⟩
  simpa using h.ends

/-- Behind a break the first line is the break alone. -/
theorem rowIs_break {ending : List Char} (h : IsBreak ending) {ls : List (List Char)}
    (hne : ls ≠ []) : RowIs (ending :: ls) 0 [] ending := by
  have hlength : 0 < ls.length := List.length_pos_iff.mpr hne
  exact ⟨rfl, by simp [Plain], Or.inl ⟨by simpa using hlength, h⟩⟩

theorem rowIs_consLine {c : Char} (hc : c ∉ breaks) {ls : List (List Char)} {row : Nat}
    {body ending : List Char} (h : RowIs ls row body ending) :
    ∃ body', RowIs (consLine c ls) row body' ending := by
  have hends := h.ends
  cases ls with
  | nil => simpa using h.line
  | cons line others =>
    cases row with
    | zero =>
      have hline : line = body ++ ending := by simpa using h.line
      exact ⟨c :: body, by simp [consLine, hline], plain_cons.mpr ⟨hc, h.plain⟩, hends⟩
    | succ row => exact ⟨body, h.line, h.plain, hends⟩

/-- Every row has its line. -/
theorem exists_rowIs {text : List Char} {row : Nat} (h : row < (lines text).length) :
    ∃ body ending, RowIs (lines text) row body ending := by
  fun_induction lines text generalizing row with
  | case1 =>
    obtain rfl : row = 0 := by simpa using h
    exact ⟨[], [], rfl, by simp [Plain], Or.inr ⟨rfl, rfl⟩⟩
  | case2 rest ih =>
    cases row with
    | zero => exact ⟨[], _, rowIs_break .pair (lines_ne_nil rest)⟩
    | succ row =>
      obtain ⟨body, ending, hrow⟩ := ih (Nat.lt_of_succ_lt_succ h)
      exact ⟨body, ending, hrow.cons _⟩
  | case3 c rest _ hbreak ih =>
    cases row with
    | zero =>
      exact ⟨[], _, rowIs_break (.one (isLineBreak_iff_mem.mp hbreak)) (lines_ne_nil rest)⟩
    | succ row =>
      obtain ⟨body, ending, hrow⟩ := ih (Nat.lt_of_succ_lt_succ h)
      exact ⟨body, ending, hrow.cons _⟩
  | case4 c rest _ hbreak ih =>
    rw [length_consLine (lines_ne_nil rest)] at h
    obtain ⟨body, ending, hrow⟩ := ih h
    have hc : c ∉ breaks := fun hc => hbreak (isLineBreak_iff_mem.mpr hc)
    obtain ⟨body', hrow'⟩ := rowIs_consLine hc hrow
    exact ⟨body', ending, hrow'⟩

/-! ## What a line shows -/

/-- The breaks that count as a part of what their line shows. -/
def shownBreaks : List Char := ['\u000b', '\u000c', '\u0085', '\u2028', '\u2029']

theorem mem_breaks_iff {c : Char} :
    c ∈ breaks ↔ (c = '\n' ∨ c = '\r') ∨ c ∈ shownBreaks := by
  simp only [breaks, shownBreaks, List.mem_cons, List.not_mem_nil, or_false]
  tauto

theorem not_line_feed_of_shown {c : Char} (h : c ∈ shownBreaks) : ¬ (c = '\n' ∨ c = '\r') := by
  rintro (rfl | rfl) <;> exact absurd h (by decide)

/-- Line feeds and carriage returns at the end of a line are not shown. -/
theorem shownLength_append_hidden {body ending : List Char} (hbody : Plain body)
    (hending : ∀ c ∈ ending, c = '\n' ∨ c = '\r') :
    shownLength (body ++ ending) = body.length := by
  have hrun : body.reverse.takeWhile (fun c => c == '\n' || c == '\r') = [] := by
    cases hlast : body.reverse with
    | nil => rfl
    | cons c rest =>
      have hc : c ∉ breaks := hbody c (List.mem_reverse.mp (by simp [hlast]))
      refine List.takeWhile_cons_of_neg fun hhidden => hc ?_
      exact mem_breaks_iff.mpr (Or.inl (by simpa using hhidden))
  have hpos : ∀ c ∈ ending.reverse, (c == '\n' || c == '\r') = true := by
    intro c hc
    simpa using hending c (List.mem_reverse.mp hc)
  rw [shownLength, List.reverse_append, List.takeWhile_append_of_pos hpos, hrun]
  simp

/-- Any other break at the end of a line is. -/
theorem shownLength_append_shown (body : List Char) {c : Char} (h : c ∈ shownBreaks) :
    shownLength (body ++ [c]) = body.length + 1 := by
  have hc : (c == '\n' || c == '\r') = false := by
    simpa using not_line_feed_of_shown h
  rw [shownLength, List.reverse_append, List.reverse_singleton, List.singleton_append,
    List.takeWhile_cons_of_neg (by simp [hc])]
  simp

theorem RowIs.shows {ls : List (List Char)} {row : Nat} {body ending : List Char}
    (h : RowIs ls row body ending) :
    (∃ c ∈ shownBreaks, ending = [c] ∧ shownLength (body ++ ending) = body.length + 1) ∨
      (∀ c ∈ ending, c = '\n' ∨ c = '\r') ∧ shownLength (body ++ ending) = body.length := by
  have hidden (hending : ∀ c ∈ ending, c = '\n' ∨ c = '\r') :
      shownLength (body ++ ending) = body.length := shownLength_append_hidden h.plain hending
  rcases h.ends with ⟨-, hbreak⟩ | ⟨-, rfl⟩
  · cases hbreak with
    | @one c hc =>
      rcases mem_breaks_iff.mp hc with hhidden | hshown
      · have hending : ∀ x ∈ [c], x = '\n' ∨ x = '\r' := by simpa using hhidden
        exact Or.inr ⟨hending, hidden hending⟩
      · exact Or.inl ⟨c, hshown, rfl, shownLength_append_shown body hshown⟩
    | pair => exact Or.inr ⟨by simp, hidden (by simp)⟩
  · exact Or.inr ⟨by simp, hidden (by simp)⟩

/-! ## Where a line stands in the text -/

theorem RowIs.startOf_succ {ls : List (List Char)} {row : Nat} {body ending : List Char}
    (h : RowIs ls row body ending) :
    startOf ls (row + 1) = startOf ls row + (body.length + ending.length) := by
  simp [startOf, List.take_add_one, h.line]

/-- Behind the last line there is nothing but the end of the text. -/
theorem startOf_of_length_le {text : List Char} {row : Nat} (h : (lines text).length ≤ row) :
    startOf (lines text) row = text.length := by
  rw [startOf, List.take_of_length_le h, flatten_lines]

theorem startOf_le_length (text : List Char) (row : Nat) :
    startOf (lines text) row ≤ text.length := by
  have hstart := startOf_mono (lines text) (Nat.le_max_left row (lines text).length)
  rwa [startOf_of_length_le (Nat.le_max_right _ _)] at hstart

theorem RowIs.flatten_eq {ls : List (List Char)} {row : Nat} {body ending : List Char}
    (h : RowIs ls row body ending) :
    ls.flatten = (ls.take row).flatten ++ ((body ++ ending) ++ (ls.drop (row + 1)).flatten) := by
  obtain ⟨hrow, hline⟩ := List.getElem?_eq_some_iff.mp h.line
  calc ls.flatten = (ls.take row ++ ls.drop row).flatten := by rw [List.take_append_drop]
    _ = _ := by rw [List.flatten_append, List.drop_eq_getElem_cons hrow, hline, List.flatten_cons]

/-- A character of a line is the character of the text as far behind the line's start. -/
theorem RowIs.getElem?_flatten {ls : List (List Char)} {row : Nat} {body ending : List Char}
    (h : RowIs ls row body ending) (column : Nat)
    (hcolumn : column < body.length + ending.length) :
    ls.flatten[startOf ls row + column]? = (body ++ ending)[column]? := by
  rw [h.flatten_eq, startOf, List.getElem?_append_right (Nat.le_add_right _ _),
    Nat.add_sub_cancel_left, List.getElem?_append_left (by simpa using hcolumn)]

/-! ## Offsets between the characters of a break -/

/-- The offset stands between a carriage return and the line feed right after it. -/
def InsidePair (text : List Char) (offset : Nat) : Prop :=
  ∃ before after, text = before ++ '\r' :: '\n' :: after ∧ before.length + 1 = offset

theorem InsidePair.getElem? {text : List Char} {offset : Nat} (h : InsidePair text offset) :
    ∃ before, offset = before + 1 ∧ text[before]? = some '\r' := by
  obtain ⟨before, after, rfl, rfl⟩ := h
  exact ⟨before.length, rfl, by simp⟩

/-- The two characters are one break, so none ends between them. -/
theorem InsidePair.not_breakEndsAt {text : List Char} {offset : Nat} (h : InsidePair text offset) :
    ¬ BreakEndsAt text offset := by
  obtain ⟨before, after, rfl, rfl⟩ := h
  rintro ⟨before', c, after', htext, hlength, -, hc⟩
  obtain ⟨-, hrest⟩ := List.append_inj htext (by omega)
  rw [List.cons.injEq] at hrest
  exact hc ⟨hrest.1.symm, by rw [← hrest.2]; rfl⟩

/-! ## The column of an offset -/

/-- An offset stands in the body of its line or right behind it, or else it stands between the
characters of the line's break. -/
theorem RowIs.column_le {text : List Char} {offset : Nat} {body ending : List Char}
    (h : RowIs (lines text) (locate (lines text) offset).1 body ending)
    (hoffset : offset ≤ text.length) :
    (locate (lines text) offset).2 ≤ body.length ∨
      ending = ['\r', '\n'] ∧ (locate (lines text) offset).2 = body.length + 1 := by
  have hplace := startOf_locate (lines text) offset
  have hsucc := h.startOf_succ
  rcases h.ends with ⟨hrow, hbreak⟩ | ⟨hrow, rfl⟩
  · have hnext := lt_startOf_locate hrow
    cases hbreak with
    | one hc =>
      rw [List.length_singleton] at hsucc
      exact Or.inl (by omega)
    | pair =>
      have hpair : ['\r', '\n'].length = 2 := rfl
      by_cases hcolumn : (locate (lines text) offset).2 ≤ body.length
      · exact Or.inl hcolumn
      · exact Or.inr ⟨rfl, by omega⟩
  · have hend : startOf (lines text) ((locate (lines text) offset).1 + 1) = text.length :=
      startOf_of_length_le (Nat.le_of_eq hrow.symm)
    rw [List.length_nil] at hsucc
    exact Or.inl (by omega)

theorem RowIs.insidePair_iff {text : List Char} {offset : Nat} {body ending : List Char}
    (h : RowIs (lines text) (locate (lines text) offset).1 body ending)
    (hoffset : offset ≤ text.length) :
    InsidePair text offset ↔
      ending = ['\r', '\n'] ∧ (locate (lines text) offset).2 = body.length + 1 := by
  have hplace := startOf_locate (lines text) offset
  constructor
  · intro hinside
    refine (h.column_le hoffset).resolve_left fun hcolumn => ?_
    cases hzero : (locate (lines text) offset).2 with
    | zero =>
      -- The offset starts its line, but no line starts between the two characters.
      have hstart : startOf (lines text) (locate (lines text) offset).1 = offset := by omega
      have hopens := (lineStartsAt_locate text offset).opens
      rw [hstart] at hopens
      obtain ⟨before, hbefore, -⟩ := hinside.getElem?
      exact hopens.elim (by omega) hinside.not_breakEndsAt
    | succ column =>
      -- The carriage return stands in front of the offset, where the line has no break.
      obtain ⟨before, hbefore, hreturn⟩ := hinside.getElem?
      have hcharacter := h.getElem?_flatten column (by omega)
      have hbody : column < body.length := by omega
      have hsame : startOf (lines text) (locate (lines text) offset).1 + column = before := by omega
      rw [flatten_lines, hsame, hreturn, List.getElem?_append_left hbody] at hcharacter
      have hmem : '\r' ∈ body := List.mem_of_getElem? hcharacter.symm
      exact h.plain '\r' hmem (by decide)
  · rintro ⟨rfl, hcolumn⟩
    have htext := h.flatten_eq
    rw [flatten_lines] at htext
    refine ⟨((lines text).take (locate (lines text) offset).1).flatten ++ body,
      ((lines text).drop ((locate (lines text) offset).1 + 1)).flatten, ?_, ?_⟩
    · simpa using htext
    · rw [List.length_append, ← startOf]
      omega

/-- A column of a line leads to an offset that stands in this column. -/
theorem locate_startOf_add {ls : List (List Char)} {row column : Nat} {line : List Char}
    (hline : ls[row]? = some line) (hcolumn : column < line.length ∨ row + 1 = ls.length) :
    locate ls (startOf ls row + column) = (row, column) := by
  induction ls generalizing row with
  | nil => simp at hline
  | cons first others ih =>
    cases others with
    | nil =>
      obtain ⟨rfl, -⟩ : row = 0 ∧ first = line := by
        cases row <;> simp_all
      simp [locate]
    | cons next rest =>
      cases row with
      | zero =>
        obtain rfl : first = line := by simpa using hline
        have hlt : column < first.length := by
          simpa using hcolumn
        simp [locate, hlt]
      | succ row =>
        have hrest := @ih row (by simpa using hline) (by simpa using hcolumn)
        have hge : ¬ first.length + startOf (next :: rest) row + column < first.length := by omega
        have hsub : first.length + startOf (next :: rest) row + column - first.length =
            startOf (next :: rest) row + column := by omega
        rw [startOf_cons, locate, if_neg hge, hsub, hrest]

/-! ## Positions -/

theorem RowIs.lineLength_eq {b : Buffer} {row : Nat} {body ending : List Char}
    (h : RowIs (lines b.chars) row body ending) :
    b.lineLength row = shownLength (body ++ ending) := by
  simp only [lineLength, h.line]

/-- Each line in front of another one holds a character at least. -/
theorem le_startOf {text : List Char} {row : Nat} (h : row < (lines text).length) :
    row ≤ startOf (lines text) row := by
  induction row with
  | zero => exact Nat.zero_le _
  | succ row ih =>
    have hbefore := ih (Nat.lt_of_succ_lt h)
    obtain ⟨body, ending, hrow⟩ := exists_rowIs (Nat.lt_of_succ_lt h)
    have hending : 0 < ending.length := by
      rcases hrow.ends with ⟨-, hbreak⟩ | ⟨hlast, -⟩
      · cases hbreak <;> simp
      · omega
    have hnext := hrow.startOf_succ
    omega

/-- The position of an offset is on a line that is there. -/
theorem positionOf_line_lt (b : Buffer) (offset : Nat) :
    (b.positionOf offset).line < b.lineCount :=
  locate_lt_length (lines_ne_nil b.chars) (b.clamp offset)

/-- The line of an offset shows the offset's column, unless the offset is inside a break. -/
theorem column_le_lineLength {b : Buffer} {offset : Nat}
    (h : ¬ InsidePair b.chars (b.clamp offset)) :
    (b.positionOf offset).column ≤ b.lineLength (b.positionOf offset).line := by
  obtain ⟨body, ending, hrow⟩ := exists_rowIs (b.positionOf_line_lt offset)
  have hle := b.clamp_le_length offset
  have hcolumn : (b.positionOf offset).column ≤ body.length :=
    (hrow.column_le hle).resolve_right fun hpair => h ((hrow.insidePair_iff hle).mpr hpair)
  rw [hrow.lineLength_eq]
  rcases hrow.shows with ⟨c, -, -, hshown⟩ | ⟨-, hshown⟩ <;> omega

/-- An offset inside a break is one column behind what its line shows. -/
theorem column_of_insidePair {b : Buffer} {offset : Nat}
    (h : InsidePair b.chars (b.clamp offset)) :
    (b.positionOf offset).column = b.lineLength (b.positionOf offset).line + 1 := by
  obtain ⟨body, ending, hrow⟩ := exists_rowIs (b.positionOf_line_lt offset)
  have hle := b.clamp_le_length offset
  obtain ⟨rfl, hcolumn⟩ := (hrow.insidePair_iff hle).mp h
  rw [hrow.lineLength_eq, shownLength_append_hidden hrow.plain (by simp)]
  exact hcolumn

/-- A column is right behind a break that its line shows. -/
def BehindShownBreak (b : Buffer) (row column : Nat) : Prop :=
  0 < column ∧ ∃ c ∈ shownBreaks, b.charAt (b.lineStart row + column - 1) = some c

theorem RowIs.not_behindShownBreak {b : Buffer} {row column : Nat} {body ending : List Char}
    (h : RowIs (lines b.chars) row body ending) (hcolumn : column ≤ body.length) :
    ¬ b.BehindShownBreak row column := by
  rintro ⟨hpos, c, hc, hcharacter⟩
  obtain ⟨before, rfl⟩ : ∃ before, column = before + 1 := ⟨column - 1, by omega⟩
  have hline := h.getElem?_flatten before (by omega)
  rw [flatten_lines, List.getElem?_append_left (by omega)] at hline
  have hmem : c ∈ body := List.mem_of_getElem? (hline.symm.trans hcharacter)
  exact h.plain c hmem (mem_breaks_iff.mpr (Or.inr hc))

/-- A column that a line shows is in the line's body or right behind it, or else it is right behind
the line's break. -/
theorem RowIs.column_le_or {b : Buffer} {row column : Nat} {body ending : List Char}
    (h : RowIs (lines b.chars) row body ending) (hcolumn : column ≤ b.lineLength row) :
    column ≤ body.length ∨
      b.BehindShownBreak row column ∧ row + 1 < b.lineCount ∧
        b.lineStart row + column = b.lineStart (row + 1) := by
  rw [h.lineLength_eq] at hcolumn
  rcases h.shows with ⟨c, hc, rfl, hshown⟩ | ⟨-, hshown⟩
  · by_cases hbody : column ≤ body.length
    · exact Or.inl hbody
    · obtain rfl : column = body.length + 1 := by omega
      have hcharacter := h.getElem?_flatten body.length (by simp)
      have hrow : row + 1 < b.lineCount := by
        rcases h.ends with ⟨hrow, -⟩ | ⟨-, hending⟩
        · exact hrow
        · exact absurd hending (List.cons_ne_nil c [])
      refine Or.inr ⟨⟨Nat.succ_pos _, c, hc, ?_⟩, hrow, h.startOf_succ.symm⟩
      rw [flatten_lines] at hcharacter
      simpa [charAt, lineStart] using hcharacter
  · exact Or.inl (by omega)

/-- What a line shows is inside the text. -/
theorem lineStart_add_le_length {b : Buffer} {row column : Nat} (hrow : row < b.lineCount)
    (hcolumn : column ≤ b.lineLength row) : b.lineStart row + column ≤ b.length := by
  obtain ⟨body, ending, hline⟩ := exists_rowIs hrow
  rcases hline.column_le_or hcolumn with hbody | ⟨-, -, hnext⟩
  · have hstart := hline.startOf_succ
    have hend := startOf_le_length b.chars (row + 1)
    simp only [lineStart, length]
    omega
  · exact hnext ▸ startOf_le_length b.chars (row + 1)

theorem lineLength_of_lineCount_le {b : Buffer} {row : Nat} (h : b.lineCount ≤ row) :
    b.lineLength row = 0 := by
  simp [lineLength, List.getElem?_eq_none h]

/-- Every position is inside the text or at its end. -/
theorem offsetOf_le_length (b : Buffer) (position : Position) : b.offsetOf position ≤ b.length := by
  unfold offsetOf
  by_cases hrow : position.line < b.lineCount
  · exact lineStart_add_le_length hrow (Nat.min_le_right _ _)
  · rw [lineLength_of_lineCount_le (Nat.le_of_not_lt hrow), Nat.min_zero]
    exact startOf_le_length b.chars position.line

/-- An offset that is counted from the start of a line stands in the column that is counted. -/
theorem RowIs.positionOf_eq {b : Buffer} {row column : Nat} {body ending : List Char}
    (h : RowIs (lines b.chars) row body ending) (hcolumn : column ≤ body.length) :
    b.positionOf (b.lineStart row + column) = ⟨row, column⟩ := by
  have hclamp : b.clamp (b.lineStart row + column) = startOf (lines b.chars) row + column := by
    have hnext := startOf_le_length b.chars (row + 1)
    rw [h.startOf_succ] at hnext
    refine clamp_of_le (Nat.le_trans ?_ hnext)
    exact Nat.add_le_add_left (Nat.le_add_right_of_le hcolumn) _
  have hline : column < (body ++ ending).length ∨ row + 1 = (lines b.chars).length := by
    rcases h.ends with ⟨-, hbreak⟩ | ⟨hrow, -⟩
    · left
      rw [List.length_append]
      cases hbreak <;> simp <;> omega
    · exact Or.inr hrow
  rw [positionOf, hclamp, locate_startOf_add h.line hline]

/-- A column that its line shows stands where the line and the column say, unless it is right behind
the line's break. -/
theorem positionOf_lineStart_add {b : Buffer} {row column : Nat} (hrow : row < b.lineCount)
    (hcolumn : column ≤ b.lineLength row) (h : ¬ b.BehindShownBreak row column) :
    b.positionOf (b.lineStart row + column) = ⟨row, column⟩ := by
  obtain ⟨body, ending, hline⟩ := exists_rowIs hrow
  exact hline.positionOf_eq ((hline.column_le_or hcolumn).resolve_right fun hbehind => h hbehind.1)

/-- A column right behind its line's break stands at the start of the next line. -/
theorem positionOf_of_behindShownBreak {b : Buffer} {row column : Nat} (hrow : row < b.lineCount)
    (hcolumn : column ≤ b.lineLength row) (h : b.BehindShownBreak row column) :
    b.positionOf (b.lineStart row + column) = ⟨row + 1, 0⟩ := by
  obtain ⟨body, ending, hline⟩ := exists_rowIs hrow
  obtain ⟨-, hnext, hstart⟩ := (hline.column_le_or hcolumn).resolve_left fun hbody =>
    hline.not_behindShownBreak hbody h
  obtain ⟨body', ending', hline'⟩ := exists_rowIs hnext
  rw [hstart]
  exact hline'.positionOf_eq (Nat.zero_le _)

end OcamlAssist.Buffer
