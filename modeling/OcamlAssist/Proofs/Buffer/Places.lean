-- Places in a text: a line starts at the front of the text and behind each
-- break, every offset stands on the last line that starts in front of it or at
-- it, and its column is counted from that start.
import OcamlAssist.Buffer.Basic
import Mathlib.Data.List.Basic

namespace OcamlAssist.Buffer

/-! ## Where lines start -/

/-- The characters that end a line. -/
def breaks : List Char :=
  ['\n', '\u000b', '\u000c', '\r', '\u0085', '\u2028', '\u2029']

/-- A line break ends right before an offset. A carriage return ends none if a line feed follows,
because the two are one break. -/
def BreakEndsAt (text : List Char) (offset : Nat) : Prop :=
  ∃ before c after, text = before ++ c :: after ∧ before.length + 1 = offset ∧ c ∈ breaks ∧
    ¬ (c = '\r' ∧ after.head? = some '\n')

/-- The line of an offset starts at `start`: at the last break in front of the offset, or at the
front of the text. -/
structure LineStartsAt (text : List Char) (offset start : Nat) : Prop where
  le : start ≤ offset
  opens : start = 0 ∨ BreakEndsAt text start
  last : ∀ k, start < k → k ≤ offset → ¬ BreakEndsAt text k

theorem isLineBreak_iff_mem {c : Char} : isLineBreak c = true ↔ c ∈ breaks := by
  have hrange : '\n' ≤ c ∧ c ≤ '\r' ↔ c = '\n' ∨ c = '\u000b' ∨ c = '\u000c' ∨ c = '\r' := by
    simp only [Char.le_def, Char.ext_iff, UInt32.le_iff_toNat_le, ← UInt32.toNat_inj]
    have h1 : '\n'.val.toNat = 10 := rfl
    have h2 : '\u000b'.val.toNat = 11 := rfl
    have h3 : '\u000c'.val.toNat = 12 := rfl
    have h4 : '\r'.val.toNat = 13 := rfl
    omega
  simp [isLineBreak, breaks, hrange, or_assoc]

theorem not_breakEndsAt_nil (offset : Nat) : ¬ BreakEndsAt [] offset := by
  rintro ⟨before, c, after, htext, -⟩
  simp at htext

theorem breakEndsAt_cons {c : Char} {rest : List Char} {offset : Nat} :
    BreakEndsAt (c :: rest) offset ↔
      (offset = 1 ∧ c ∈ breaks ∧ ¬ (c = '\r' ∧ rest.head? = some '\n')) ∨
        ∃ k, offset = k + 1 ∧ BreakEndsAt rest k := by
  constructor
  · rintro ⟨before, b, after, htext, rfl, hb⟩
    cases before with
    | nil =>
      rw [List.nil_append, List.cons.injEq] at htext
      obtain ⟨rfl, rfl⟩ := htext
      exact Or.inl ⟨rfl, hb⟩
    | cons x before =>
      rw [List.cons_append, List.cons.injEq] at htext
      obtain ⟨rfl, rfl⟩ := htext
      exact Or.inr ⟨before.length + 1, rfl, before, b, after, rfl, rfl, hb⟩
  · rintro (⟨rfl, hc⟩ | ⟨k, rfl, before, b, after, rfl, rfl, hb⟩)
    · exact ⟨[], c, rest, rfl, rfl, hc⟩
    · exact ⟨c :: before, b, after, rfl, rfl, hb⟩

@[simp] theorem startOf_zero (ls : List (List Char)) : startOf ls 0 = 0 := rfl

@[simp] theorem startOf_cons (line : List Char) (ls : List (List Char)) (row : Nat) :
    startOf (line :: ls) (row + 1) = line.length + startOf ls row := by
  simp [startOf]

theorem startOf_mono (ls : List (List Char)) {row row' : Nat} (h : row ≤ row') :
    startOf ls row ≤ startOf ls row' := by
  obtain ⟨tail, htail⟩ : ls.take row <+: ls.take row' := List.take_prefix_take_left h
  unfold startOf
  rw [← htail, List.flatten_append, List.length_append]
  exact Nat.le_add_right _ _

theorem startOf_consLine (c : Char) (ls : List (List Char)) (row : Nat) :
    startOf (consLine c ls) (row + 1) = startOf ls (row + 1) + 1 := by
  cases ls with
  | nil => simp [consLine, startOf]
  | cons line others =>
    rw [consLine, startOf_cons, startOf_cons, List.length_cons]
    omega

theorem length_consLine {c : Char} {ls : List (List Char)} (hne : ls ≠ []) :
    (consLine c ls).length = ls.length := by
  cases ls with
  | nil => exact absurd rfl hne
  | cons line others => rfl

/-- A line behind the first one starts at an offset. -/
def LaterLineAt (ls : List (List Char)) (offset : Nat) : Prop :=
  ∃ row, row + 1 < ls.length ∧ startOf ls (row + 1) = offset

theorem laterLineAt_cons {line : List Char} {ls : List (List Char)} (hne : ls ≠ [])
    {offset : Nat} :
    LaterLineAt (line :: ls) offset ↔
      offset = line.length ∨ ∃ k, offset = k + line.length ∧ LaterLineAt ls k := by
  have hlength : 0 < ls.length := List.length_pos_iff.mpr hne
  constructor
  · rintro ⟨row, hrow, rfl⟩
    rw [List.length_cons] at hrow
    rw [startOf_cons]
    cases row with
    | zero => exact Or.inl rfl
    | succ row => exact Or.inr ⟨startOf ls (row + 1), by omega, row, by omega, rfl⟩
  · rintro (rfl | ⟨k, rfl, row, hrow, rfl⟩)
    · exact ⟨0, by simpa using hlength, by simp⟩
    · refine ⟨row + 1, ?_, ?_⟩
      · rw [List.length_cons]
        omega
      · rw [startOf_cons]
        omega

theorem laterLineAt_consLine {c : Char} {ls : List (List Char)} (hne : ls ≠ []) {offset : Nat} :
    LaterLineAt (consLine c ls) offset ↔ ∃ k, offset = k + 1 ∧ LaterLineAt ls k := by
  unfold LaterLineAt
  rw [length_consLine hne]
  constructor
  · rintro ⟨row, hrow, rfl⟩
    exact ⟨startOf ls (row + 1), startOf_consLine c ls row, row, hrow, rfl⟩
  · rintro ⟨k, rfl, row, hrow, rfl⟩
    exact ⟨row, hrow, startOf_consLine c ls row⟩

/-- The lines behind the first one start where a break ends. -/
theorem laterLineAt_lines (text : List Char) (offset : Nat) :
    LaterLineAt (lines text) offset ↔ BreakEndsAt text offset := by
  fun_induction lines text generalizing offset with
  | case1 =>
    refine ⟨?_, fun h => absurd h (not_breakEndsAt_nil offset)⟩
    rintro ⟨row, hrow, -⟩
    simp at hrow
  | case2 rest ih =>
    -- The carriage return ends no break here, the line feed behind it does.
    have hfeed : '\n' ∈ breaks ∧ ¬ ('\n' = '\r' ∧ rest.head? = some '\n') := by
      simp [breaks]
    simp only [laterLineAt_cons (lines_ne_nil rest), breakEndsAt_cons, ih, List.head?_cons,
      and_self, not_true, and_false, false_or, List.length_cons, List.length_nil]
    constructor
    · rintro (rfl | ⟨k, rfl, hk⟩)
      · exact ⟨1, rfl, Or.inl ⟨rfl, hfeed⟩⟩
      · exact ⟨k + 1, rfl, Or.inr ⟨k, rfl, hk⟩⟩
    · rintro ⟨k, rfl, ⟨rfl, -⟩ | ⟨k', rfl, hk'⟩⟩
      · exact Or.inl rfl
      · exact Or.inr ⟨k', rfl, hk'⟩
  | case3 c rest hpair hbreak ih =>
    have hsingle : ¬ (c = '\r' ∧ rest.head? = some '\n') := by
      rintro ⟨rfl, hhead⟩
      obtain ⟨tail, rfl⟩ := List.head?_eq_some_iff.mp hhead
      exact hpair tail rfl rfl
    rw [laterLineAt_cons (lines_ne_nil rest), breakEndsAt_cons]
    simp only [ih, isLineBreak_iff_mem.mp hbreak, hsingle, not_false_eq_true, and_true,
      List.length_singleton]
  | case4 c rest hpair hbreak ih =>
    rw [laterLineAt_consLine (lines_ne_nil rest), breakEndsAt_cons]
    have hc : c ∉ breaks := fun hc => hbreak (isLineBreak_iff_mem.mpr hc)
    simp only [ih, hc, false_and, and_false, false_or]

/-! ## Where an offset stands -/

/-- The line starts a column's length in front of the offset. -/
theorem startOf_locate (ls : List (List Char)) (offset : Nat) :
    startOf ls (locate ls offset).1 + (locate ls offset).2 = offset := by
  fun_induction locate ls offset with
  | case1 offset => simp
  | case2 line offset => simp
  | case3 line next others offset h => simp
  | case4 line next others offset h row column hlocate ih =>
    simp only [hlocate] at ih
    rw [startOf_cons]
    omega

theorem locate_lt_length {ls : List (List Char)} (hne : ls ≠ []) (offset : Nat) :
    (locate ls offset).1 < ls.length := by
  fun_induction locate ls offset with
  | case1 offset => exact absurd rfl hne
  | case2 line offset => simp
  | case3 line next others offset h => simp
  | case4 line next others offset h row column hlocate ih =>
    rw [hlocate] at ih
    rw [List.length_cons]
    exact Nat.succ_lt_succ (ih (List.cons_ne_nil next others))

/-- The next line starts behind the offset. -/
theorem lt_startOf_locate {ls : List (List Char)} {offset : Nat}
    (h : (locate ls offset).1 + 1 < ls.length) :
    offset < startOf ls ((locate ls offset).1 + 1) := by
  fun_induction locate ls offset with
  | case1 offset => simp at h
  | case2 line offset => simp at h
  | case3 line next others offset hlt =>
    rw [startOf_cons]
    exact Nat.lt_of_lt_of_le hlt (Nat.le_add_right _ _)
  | case4 line next others offset hge row column hlocate ih =>
    simp only [hlocate] at ih
    have hlt := ih (Nat.lt_of_succ_lt_succ h)
    show offset < startOf (line :: next :: others) (row + 1 + 1)
    rw [startOf_cons]
    omega

/-- Every offset stands on the line that starts at the last break in front of it. -/
theorem lineStartsAt_locate (text : List Char) (offset : Nat) :
    LineStartsAt text offset (startOf (lines text) (locate (lines text) offset).1) := by
  have hplace := startOf_locate (lines text) offset
  have hrow := locate_lt_length (lines_ne_nil text) offset
  refine ⟨by omega, ?_, fun k hstart hk hbreak => ?_⟩
  · cases hzero : (locate (lines text) offset).1 with
    | zero => exact Or.inl rfl
    | succ row =>
      right
      rw [hzero] at hrow
      exact (laterLineAt_lines text _).mp ⟨row, hrow, rfl⟩
  · obtain ⟨row, hlater, rfl⟩ := (laterLineAt_lines text k).mpr hbreak
    -- A line that starts behind the start of this one is a later line.
    have hbehind : (locate (lines text) offset).1 + 1 ≤ row + 1 := by
      by_contra hle
      have := startOf_mono (lines text) (Nat.le_of_lt_succ (Nat.lt_of_not_le hle))
      omega
    have hnext : offset < startOf (lines text) ((locate (lines text) offset).1 + 1) :=
      lt_startOf_locate (Nat.lt_of_le_of_lt hbehind hlater)
    have := startOf_mono (lines text) hbehind
    omega

/-- An offset stands on one line only. -/
theorem LineStartsAt.unique {text : List Char} {offset start start' : Nat}
    (h : LineStartsAt text offset start) (h' : LineStartsAt text offset start') :
    start = start' := by
  rcases Nat.lt_trichotomy start start' with hlt | heq | hlt
  · rcases h'.opens with hzero | hbreak
    · omega
    · exact absurd hbreak (h.last start' hlt h'.le)
  · exact heq
  · rcases h.opens with hzero | hbreak
    · omega
    · exact absurd hbreak (h'.last start hlt h.le)

theorem lineStartsAt_iff {text : List Char} {offset start : Nat} :
    LineStartsAt text offset start ↔
      startOf (lines text) (locate (lines text) offset).1 = start := by
  constructor
  · intro h
    exact (lineStartsAt_locate text offset).unique h
  · rintro rfl
    exact lineStartsAt_locate text offset

/-! ## Offsets past the end -/

theorem clamp_le_length (b : Buffer) (offset : Nat) : b.clamp offset ≤ b.length :=
  Nat.min_le_right _ _

theorem clamp_of_le {b : Buffer} {offset : Nat} (h : offset ≤ b.length) :
    b.clamp offset = offset :=
  Nat.min_eq_left h

@[simp] theorem clamp_clamp (b : Buffer) (offset : Nat) :
    b.clamp (b.clamp offset) = b.clamp offset :=
  clamp_of_le (b.clamp_le_length offset)

@[simp] theorem positionOf_clamp (b : Buffer) (offset : Nat) :
    b.positionOf (b.clamp offset) = b.positionOf offset := by
  simp only [positionOf, clamp_clamp]

@[simp] theorem wordEnd_clamp (b : Buffer) (offset : Nat) :
    b.wordEnd (b.clamp offset) = b.wordEnd offset := by
  simp only [wordEnd, clamp_clamp]

@[simp] theorem wordStart_clamp (b : Buffer) (offset : Nat) :
    b.wordStart (b.clamp offset) = b.wordStart offset := by
  simp only [wordStart, clamp_clamp]

/-- A place stands as far behind the start of its line as its column says. -/
theorem lineStart_add_column (b : Buffer) (offset : Nat) :
    b.lineStart (b.positionOf offset).line + (b.positionOf offset).column = b.clamp offset :=
  startOf_locate (lines b.chars) (b.clamp offset)

/-! ## Text between offsets -/

theorem length_take_clamp (b : Buffer) (offset : Nat) :
    (b.chars.take (b.clamp offset)).length = b.clamp offset :=
  List.length_take_of_le (b.clamp_le_length offset)

/-- Where the text between two offsets ends before it starts, there is none. -/
theorem slice_eq (b : Buffer) (start stop : Nat) :
    b.slice start stop = (b.chars.take (b.clamp stop)).drop start := by
  simp only [slice]
  rcases Nat.le_total start (b.clamp stop) with hle | hle
  · rw [Nat.min_eq_left hle, List.drop_take]
  · rw [Nat.min_eq_right hle, Nat.sub_self, List.take_zero,
      List.drop_eq_nil_of_le (Nat.le_trans (List.length_take_le _ _) hle)]

@[simp] theorem slice_clamp_stop (b : Buffer) (start stop : Nat) :
    b.slice start (b.clamp stop) = b.slice start stop := by
  rw [slice_eq, slice_eq, clamp_clamp]

/-- Where the text between two offsets starts past the end, there is none. -/
@[simp] theorem slice_clamp_start (b : Buffer) (start stop : Nat) :
    b.slice (b.clamp start) stop = b.slice start stop := by
  rcases Nat.le_total start b.length with hle | hle
  · rw [clamp_of_le hle]
  · have hclamp : b.clamp start = b.length := Nat.min_eq_right hle
    have hlength : (b.chars.take (b.clamp stop)).length ≤ b.length := by
      rw [length_take_clamp]
      exact b.clamp_le_length stop
    rw [slice_eq, slice_eq, hclamp, List.drop_eq_nil_of_le hlength,
      List.drop_eq_nil_of_le (Nat.le_trans hlength hle)]

/-- The text goes on in front of what stands between two offsets, and behind it. -/
theorem exists_around_slice {b : Buffer} {start stop : Nat} (hle : start ≤ stop)
    (hstop : stop ≤ b.length) :
    ∃ front rest, b.chars = front ++ (b.slice start stop ++ rest) ∧ front.length = start ∧
      front.length + (b.slice start stop).length = stop := by
  have hslice : b.slice start stop = (b.chars.take stop).drop start := by
    rw [slice_eq, clamp_of_le hstop]
  have hfront : b.chars.take start = (b.chars.take stop).take start := by
    rw [List.take_take, Nat.min_eq_left hle]
  have hlength : (b.chars.take start).length = start :=
    List.length_take_of_le (Nat.le_trans hle hstop)
  refine ⟨b.chars.take start, b.chars.drop stop, ?_, hlength, ?_⟩
  · rw [hslice, ← List.append_assoc, hfront, List.take_append_drop, List.take_append_drop]
  · rw [hslice, hlength, List.length_drop, List.length_take_of_le hstop]
    exact Nat.add_sub_cancel' hle

@[simp] theorem wordBefore_clamp (b : Buffer) (offset : Nat) :
    b.wordBefore (b.clamp offset) = b.wordBefore offset := by
  simp only [wordBefore, wordStart_clamp, slice_clamp_stop]

end OcamlAssist.Buffer
