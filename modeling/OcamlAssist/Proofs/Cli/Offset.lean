-- The laws of places on the command line: what an offset becomes as a line and
-- a column is read back as the offset, and a line and a column that are
-- accepted name the place that they say.
import OcamlAssist.Cli.Offset
import OcamlAssist.Proofs.Buffer.Columns
import OcamlAssist.Proofs.Text.Decimal
import OcamlAssist.Proofs.Text.Split

namespace OcamlAssist

/-! ## Lines and columns of a document -/

namespace Document

theorem offsetOf_eq_ok_iff {d : Document} {line column offset : Nat} :
    d.offsetOf line column = .ok offset ↔
      line < d.buffer.lineCount ∧ column ≤ d.buffer.lineLength line ∧
        d.buffer.lineStart line + column = offset := by
  by_cases h : line < d.buffer.lineCount ∧ column ≤ d.buffer.lineLength line
  · rw [offsetOf, if_pos h, Except.ok.injEq, Buffer.offsetOf, Nat.min_eq_left h.2]
    simp [h.1, h.2]
  · rw [offsetOf, if_neg h]
    simp only [reduceCtorEq, false_iff]
    exact fun hall => h ⟨hall.1, hall.2.1⟩

theorem offsetOf_le_length {d : Document} {line column offset : Nat}
    (h : d.offsetOf line column = .ok offset) : offset ≤ d.length := by
  obtain ⟨hline, hcolumn, rfl⟩ := offsetOf_eq_ok_iff.mp h
  exact Buffer.lineStart_add_le_length hline hcolumn

end Document

/-- Where the offset of an accepted line and column stands: on that line in that column, or at the
start of the next line if the column is right behind a break that the line shows. -/
structure Buffer.ReachedAt (b : Buffer) (line column offset : Nat) : Prop where
  there : ¬ b.BehindShownBreak line column → b.positionOf offset = ⟨line, column⟩
  next : b.BehindShownBreak line column → b.positionOf offset = ⟨line + 1, 0⟩

theorem Document.reachedAt_of_offsetOf {d : Document} {line column offset : Nat}
    (h : d.offsetOf line column = .ok offset) : d.buffer.ReachedAt line column offset := by
  obtain ⟨hline, hcolumn, rfl⟩ := Document.offsetOf_eq_ok_iff.mp h
  exact ⟨Buffer.positionOf_lineStart_add hline hcolumn,
    Buffer.positionOf_of_behindShownBreak hline hcolumn⟩

namespace Cli

open OcamlAssist.Text

/-! ## Results that may be errors -/

theorem ok_bind {ε α β : Type} (a : α) (f : α → Except ε β) : (Except.ok a >>= f) = f a := rfl

theorem error_bind {ε α β : Type} (e : ε) (f : α → Except ε β) :
    (Except.error e >>= f) = .error e := rfl

theorem bind_eq_ok_iff {ε α β : Type} {x : Except ε α} {f : α → Except ε β} {b : β} :
    (x >>= f) = .ok b ↔ ∃ a, x = .ok a ∧ f a = .ok b := by
  cases x <;> simp [ok_bind, error_bind]

theorem mapError_eq_ok_iff {ε ε' α : Type} {x : Except ε α} {f : ε → ε'} {a : α} :
    x.mapError f = .ok a ↔ x = .ok a := by
  cases x <;> simp [Except.mapError]

/-! ## Words -/

/-- The word that names a line and a column, both counted from one. -/
def placeWord (place : Position) : String :=
  toString (place.line + 1) ++ ":" ++ toString (place.column + 1)

/-- The word holds a colon, with a line in front of it and a column behind it, both counted from
one. -/
def SpellsPlace (word : String) (place : Position) : Prop :=
  ∃ line column, cutAt ':' word.toList = some (line, column) ∧
    Text.readNumber line = .ok (place.line + 1) ∧
    Text.readNumber column = .ok (place.column + 1)

/-- The answer to numbers that a machine word holds each. A larger number is refused instead. -/
def ifHeld (numbers : List Nat) (answer : Except OffsetFault Nat) : Except OffsetFault Nat :=
  if ∀ n ∈ numbers, n < wordLimit then answer else .error (.number .tooLarge)

theorem readNumber_decimal (n : Nat) :
    readNumber (toString n).toList =
      if n < wordLimit then .ok n else .error (.number .tooLarge) := by
  rw [readNumber, readNumber_toString]
  split <;> rfl

/-- A word without a colon is accepted for the offset that it spells. -/
theorem readOffset_of_not_colon {d : Document} {word : String} {offset : Nat}
    (hcolon : ':' ∉ word.toList) :
    readOffset d word = .ok offset ↔
      readNumber word.toList = .ok offset ∧ offset ≤ d.length := by
  simp only [readOffset, cutAt_eq_none_iff.mpr hcolon, bind_eq_ok_iff]
  constructor
  · rintro ⟨read, hread, hoffset⟩
    split at hoffset
    · cases hoffset
    · rename_i hle
      obtain rfl : read = offset := by simpa using hoffset
      exact ⟨hread, Nat.le_of_not_lt hle⟩
  · rintro ⟨hread, hle⟩
    exact ⟨offset, hread, if_neg (Nat.not_lt.mpr hle)⟩

theorem readOffset_of_spellsPlace {d : Document} {word : String} {place : Position}
    (h : SpellsPlace word place) :
    readOffset d word = (d.offsetOf place.line place.column).mapError .outOfBounds := by
  obtain ⟨line, column, hcut, hline, hcolumn⟩ := h
  have hline' : readNumber line = .ok (place.line + 1) := mapError_eq_ok_iff.mpr hline
  have hcolumn' : readNumber column = .ok (place.column + 1) := mapError_eq_ok_iff.mpr hcolumn
  simp only [readOffset, hcut, hline', hcolumn', ok_bind]
  rw [if_neg (by omega)]
  rfl

/-- A word with a colon is accepted only for a line and a column that it spells. -/
theorem exists_spellsPlace {d : Document} {word : String} {offset : Nat}
    (h : readOffset d word = .ok offset) (hcolon : ':' ∈ word.toList) :
    ∃ place, SpellsPlace word place ∧ d.offsetOf place.line place.column = .ok offset := by
  cases hcut : cutAt ':' word.toList with
  | none => exact absurd hcolon (cutAt_eq_none_iff.mp hcut)
  | some cut =>
    simp only [readOffset, hcut, bind_eq_ok_iff] at h
    obtain ⟨line, hline, column, hcolumn, hplace⟩ := h
    split at hplace
    · cases hplace
    · rename_i hpositive
      rw [mapError_eq_ok_iff] at hplace
      refine ⟨⟨line - 1, column - 1⟩, ⟨cut.1, cut.2, hcut, ?_, ?_⟩, hplace⟩
      · rw [mapError_eq_ok_iff.mp hline, Nat.sub_add_cancel (by omega)]
      · rw [mapError_eq_ok_iff.mp hcolumn, Nat.sub_add_cancel (by omega)]

theorem readOffset_toString (d : Document) {offset : Nat} (h : offset ≤ d.length) :
    readOffset d (toString offset) = ifHeld [offset] (.ok offset) := by
  simp only [readOffset, cutAt_eq_none_iff.mpr (colon_not_mem_toString offset),
    readNumber_decimal, ifHeld, List.mem_singleton, forall_eq]
  split
  · rw [ok_bind, if_neg (Nat.not_lt.mpr h)]
  · rfl

theorem cutAt_placeWord (place : Position) :
    cutAt ':' (placeWord place).toList =
      some ((toString (place.line + 1)).toList, (toString (place.column + 1)).toList) := by
  rw [← cutAt_append (colon_not_mem_toString (place.line + 1))]
  simp [placeWord]

theorem readOffset_placeWord (d : Document) (place : Position) :
    readOffset d (placeWord place) = ifHeld [place.line + 1, place.column + 1]
      ((d.offsetOf place.line place.column).mapError .outOfBounds) := by
  have hcut := cutAt_placeWord place
  simp only [ifHeld, List.mem_cons, List.not_mem_nil, or_false, forall_eq_or_imp, forall_eq]
  split
  · rename_i hheld
    refine readOffset_of_spellsPlace ⟨_, _, hcut, ?_, ?_⟩
    · rw [readNumber_toString, if_pos hheld.1]
    · rw [readNumber_toString, if_pos hheld.2]
  · rename_i hheld
    simp only [readOffset, hcut, readNumber_decimal]
    -- The line is read first, but a number too large is refused in the same words in either place.
    by_cases hline : place.line + 1 < wordLimit
    · have hcolumn : ¬ place.column + 1 < wordLimit := fun hcolumn => hheld ⟨hline, hcolumn⟩
      rw [if_pos hline, if_neg hcolumn, ok_bind, error_bind]
    · rw [if_neg hline, error_bind]

theorem le_length_of_readOffset {d : Document} {word : String} {offset : Nat}
    (h : readOffset d word = .ok offset) : offset ≤ d.length := by
  by_cases hcolon : ':' ∈ word.toList
  · obtain ⟨place, -, hplace⟩ := exists_spellsPlace h hcolon
    exact Document.offsetOf_le_length hplace
  · exact ((readOffset_of_not_colon hcolon).mp h).2

/-! ## There and back -/

/-- What an offset becomes as a line and a column, and what it is read back as. -/
structure SurvivesAs (d : Document) (offset : Nat) (place : Position) : Prop where
  line_lt : place.line < d.buffer.lineCount
  start_add : d.buffer.lineStart place.line + place.column = offset
  decimal : readOffset d (toString offset) = ifHeld [offset] (.ok offset)
  returns : ¬ Buffer.InsidePair d.buffer.chars offset →
    d.buffer.offsetOf place = offset ∧ d.offsetOf place.line place.column = .ok offset ∧
      readOffset d (placeWord place) = ifHeld [place.line + 1, place.column + 1] (.ok offset)
  refused : Buffer.InsidePair d.buffer.chars offset →
    d.buffer.offsetOf place = offset - 1 ∧
      d.offsetOf place.line place.column = .error ⟨place.line, place.column⟩ ∧
      readOffset d (placeWord place) = ifHeld [place.line + 1, place.column + 1]
        (.error (.outOfBounds ⟨place.line, place.column⟩))
  held : d.length + 1 < wordLimit →
    ∀ n ∈ [offset, place.line + 1, place.column + 1], n < wordLimit

/-- Every offset of a document is read back from its decimal text. It is read back from its line and
its column unless it stands inside a line break of two characters, where the column is one behind
what the line shows and is refused. No word at all is accepted for an offset past the end. -/
theorem every_offset_survives_the_trip (d : Document) (offset : Nat) :
    SurvivesAs d (min offset d.length) (d.buffer.positionOf offset) ∧
      ∀ word read, readOffset d word = .ok read → read ≤ d.length := by
  have hle : min offset d.length ≤ d.length := Nat.min_le_right _ _
  have hline := d.buffer.positionOf_line_lt offset
  have hstart : d.buffer.lineStart (d.buffer.positionOf offset).line +
      (d.buffer.positionOf offset).column = min offset d.length := Buffer.startOf_locate _ _
  refine ⟨⟨hline, hstart, readOffset_toString d hle, fun hpair => ?_, fun hpair => ?_,
    fun hlength => ?_⟩, fun word read => le_length_of_readOffset⟩
  · have hcolumn := Buffer.column_le_lineLength hpair
    have hoffset := Document.offsetOf_eq_ok_iff.mpr ⟨hline, hcolumn, hstart⟩
    refine ⟨?_, hoffset, ?_⟩
    · rw [Buffer.offsetOf, Nat.min_eq_left hcolumn, hstart]
    · rw [readOffset_placeWord, hoffset]
      rfl
  · have hcolumn := Buffer.column_of_insidePair hpair
    have hoffset : d.offsetOf (d.buffer.positionOf offset).line
        (d.buffer.positionOf offset).column = .error ⟨_, _⟩ :=
      if_neg fun hall => absurd hall.2 (by omega)
    refine ⟨?_, hoffset, ?_⟩
    · rw [Buffer.offsetOf, Nat.min_eq_right (by omega)]
      omega
    · rw [readOffset_placeWord, hoffset]
      rfl
  · have hbefore := Buffer.le_startOf hline
    have hstart' : (d.buffer.positionOf offset).line ≤
        d.buffer.lineStart (d.buffer.positionOf offset).line := hbefore
    simp only [List.mem_cons, List.not_mem_nil, or_false, forall_eq_or_imp, forall_eq]
    omega

example : readOffset (Document.ofString "a\r\nb") "1:3" = .error (.outOfBounds ⟨0, 2⟩) := by
  decide +kernel

/-! ## What is accepted -/

/-- An accepted line and column stand where they say, and so do the ones that a word spells, except
for a column right behind a break that its line shows: it is the start of the next line. -/
theorem an_accepted_place_is_where_it_says (d : Document) :
    (∀ line column offset, d.offsetOf line column = .ok offset →
      d.buffer.ReachedAt line column offset) ∧
    ∀ word offset, readOffset d word = .ok offset → ':' ∈ word.toList →
      ∃ place, SpellsPlace word place ∧ d.buffer.ReachedAt place.line place.column offset := by
  refine ⟨fun line column offset => Document.reachedAt_of_offsetOf, fun word offset h hcolon => ?_⟩
  obtain ⟨place, hspells, hplace⟩ := exists_spellsPlace h hcolon
  exact ⟨place, hspells, Document.reachedAt_of_offsetOf hplace⟩

/-- A vertical tab is a break that its line shows. The column right behind it is accepted on the
first line and stands on the second one. -/
theorem a_column_behind_a_vertical_tab_is_on_the_next_line :
    (Document.ofString "a\u000bb").offsetOf 0 2 = .ok 2 ∧
      readOffset (Document.ofString "a\u000bb") "1:3" = .ok 2 ∧
      (Document.ofString "a\u000bb").buffer.positionOf 2 = ⟨1, 0⟩ := by
  decide +kernel

end Cli

end OcamlAssist
