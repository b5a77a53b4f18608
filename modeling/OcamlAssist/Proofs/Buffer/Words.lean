-- Runs of characters of one class in a text. From each offset there is a first
-- one where the run stops, and around each offset there is one run, which is
-- empty if no character next to the offset is of the class. The law of words is
-- that the movements to the start and to the end of a word lead around one run.
import OcamlAssist.Proofs.Buffer.Places
import Mathlib.Data.List.TakeWhile
import Mathlib.Order.Bounds.Basic

namespace OcamlAssist.Buffer

open OcamlAssist.Chars

/-! ## Where a run stops -/

/-- The character at an offset is of the class. -/
def HoldsAt (p : Char → Bool) (text : List Char) (k : Nat) : Prop :=
  ∃ c, text[k]? = some c ∧ p c = true

/-- No run of the class goes over the offset: the text ends there, or the character there is not of
the class. -/
def StopsAt (p : Char → Bool) (text : List Char) (k : Nat) : Prop :=
  k = text.length ∨ ∃ c, text[k]? = some c ∧ p c = false

/-- The first offset from `start` on where a run of the class stops. -/
def FirstStop (p : Char → Bool) (text : List Char) (start stop : Nat) : Prop :=
  IsLeast {k | start ≤ k ∧ StopsAt p text k} stop

variable {p q : Char → Bool} {text : List Char} {start middle stop k : Nat}

theorem HoldsAt.lt_length (h : HoldsAt p text k) : k < text.length := by
  obtain ⟨c, hc, -⟩ := h
  exact (List.getElem?_eq_some_iff.mp hc).1

theorem StopsAt.le_length (h : StopsAt p text k) : k ≤ text.length := by
  rcases h with rfl | ⟨c, hc, -⟩
  · exact Nat.le_refl _
  · exact Nat.le_of_lt (List.getElem?_eq_some_iff.mp hc).1

theorem StopsAt.not_holdsAt (h : StopsAt p text k) : ¬HoldsAt p text k := by
  intro hholds
  rcases h with rfl | ⟨c, hc, hother⟩
  · exact Nat.lt_irrefl _ hholds.lt_length
  · obtain ⟨c', hc', hclass⟩ := hholds
    obtain rfl : c = c' := Option.some.inj (hc.symm.trans hc')
    rw [hother] at hclass
    exact Bool.noConfusion hclass

theorem stopsAt_of_not_holdsAt (hk : k ≤ text.length) (h : ¬HoldsAt p text k) :
    StopsAt p text k := by
  cases hc : text[k]? with
  | none => exact Or.inl (Nat.le_antisymm hk (List.getElem?_eq_none_iff.mp hc))
  | some c => exact Or.inr ⟨c, hc, Bool.eq_false_iff.mpr fun hclass => h ⟨c, hc, hclass⟩⟩

theorem HoldsAt.mono (hpq : ∀ c, p c = true → q c = true) (h : HoldsAt p text k) :
    HoldsAt q text k := by
  obtain ⟨c, hc, hclass⟩ := h
  exact ⟨c, hc, hpq c hclass⟩

/-- The first stop is one that has the class everywhere in front of it. -/
theorem firstStop_iff :
    FirstStop p text start stop ↔
      start ≤ stop ∧ StopsAt p text stop ∧ ∀ k, start ≤ k → k < stop → HoldsAt p text k := by
  constructor
  · rintro ⟨⟨hle, hstops⟩, hleast⟩
    refine ⟨hle, hstops, fun k hstart hk => ?_⟩
    by_contra hnot
    have hlength : k ≤ text.length := Nat.le_trans (Nat.le_of_lt hk) hstops.le_length
    have hstop : stop ≤ k := hleast ⟨hstart, stopsAt_of_not_holdsAt hlength hnot⟩
    omega
  · rintro ⟨hle, hstops, hholds⟩
    refine ⟨⟨hle, hstops⟩, ?_⟩
    rintro k ⟨hstart, hk⟩
    by_contra hlt
    exact hk.not_holdsAt (hholds k hstart (Nat.lt_of_not_le hlt))

/-- A run that goes up to an offset stops where it stops from there on. -/
theorem FirstStop.extend (h : FirstStop p text middle stop) (hle : start ≤ middle)
    (hbetween : ∀ k, start ≤ k → k < middle → HoldsAt p text k) :
    FirstStop p text start stop := by
  obtain ⟨hstop, hstops, hholds⟩ := firstStop_iff.mp h
  refine firstStop_iff.mpr ⟨Nat.le_trans hle hstop, hstops, fun k hstart hk => ?_⟩
  by_cases hmiddle : k < middle
  · exact hbetween k hstart hmiddle
  · exact hholds k (Nat.le_of_not_lt hmiddle) hk

/-- Two offsets with nothing but the class in between have the same stop. -/
theorem FirstStop.eq_of_holds {start' stop' : Nat} (h : FirstStop p text start stop)
    (h' : FirstStop p text start' stop')
    (hbetween : ∀ k, min start start' ≤ k → k < max start start' → HoldsAt p text k) :
    stop = stop' := by
  rcases Nat.le_total start start' with hle | hle
  · rw [Nat.min_eq_left hle, Nat.max_eq_right hle] at hbetween
    exact h.unique (h'.extend hle hbetween)
  · rw [Nat.min_eq_right hle, Nat.max_eq_left hle] at hbetween
    exact (h.extend hle hbetween).unique h'

/-! ## Ends of words -/

theorem holdsAt_append {front run rest : List Char} (hrun : ∀ c ∈ run, p c = true)
    (hstart : front.length ≤ k) (hk : k < front.length + run.length) :
    HoldsAt p (front ++ (run ++ rest)) k := by
  have hlength : k - front.length < run.length := by omega
  refine ⟨run[k - front.length], ?_, hrun _ (List.getElem_mem hlength)⟩
  rw [List.getElem?_append_right hstart, List.getElem?_append_left hlength,
    List.getElem?_eq_getElem hlength]

theorem firstStop_append {front run rest : List Char} (hrun : ∀ c ∈ run, p c = true)
    (hrest : ∀ c, rest.head? = some c → p c = false) :
    FirstStop p (front ++ (run ++ rest)) front.length (front.length + run.length) := by
  refine firstStop_iff.mpr ⟨Nat.le_add_right _ _, ?_, fun k => holdsAt_append hrun⟩
  cases rest with
  | nil =>
    left
    rw [List.append_nil, List.length_append]
  | cons c rest =>
    refine Or.inr ⟨c, ?_, hrest c rfl⟩
    rw [← List.append_assoc, ← List.length_append]
    simp

theorem wordEnd_firstStop (b : Buffer) (offset : Nat) :
    FirstStop isWord b.chars (b.clamp offset) (b.wordEnd offset) := by
  have hrun : ∀ c ∈ (b.chars.drop (b.clamp offset)).takeWhile isWord, isWord c = true :=
    fun c hc => List.mem_takeWhile_imp hc
  have hrest : ∀ c, ((b.chars.drop (b.clamp offset)).dropWhile isWord).head? = some c →
      isWord c = false := by
    intro c hc
    have hhead := List.head?_dropWhile_not isWord (b.chars.drop (b.clamp offset))
    rwa [hc] at hhead
  have hstop := @firstStop_append isWord (b.chars.take (b.clamp offset)) _ _ hrun hrest
  rwa [List.takeWhile_append_dropWhile, List.take_append_drop, length_take_clamp] at hstop

/-! ## Runs -/

/-- The run of the class around an offset: all of it is of the class, and neither neighbour is. -/
structure RunAround (p : Char → Bool) (text : List Char) (offset start stop : Nat) : Prop where
  start_le : start ≤ offset
  le_stop : offset ≤ stop
  holds : ∀ k, start ≤ k → k < stop → HoldsAt p text k
  opens : ∀ k, k + 1 = start → ¬HoldsAt p text k
  stops : StopsAt p text stop

/-- A character of the class stands at an offset or right in front of it. -/
def Adjoins (p : Char → Bool) (text : List Char) (offset : Nat) : Prop :=
  HoldsAt p text offset ∨ ∃ k, k + 1 = offset ∧ HoldsAt p text k

theorem RunAround.firstStop {offset : Nat} (hrun : RunAround p text offset start stop) :
    FirstStop p text offset stop :=
  firstStop_iff.mpr
    ⟨hrun.le_stop, hrun.stops, fun k hk => hrun.holds k (Nat.le_trans hrun.start_le hk)⟩

/-- A run is around each of its offsets, the one right behind it included. -/
theorem RunAround.move {offset other : Nat} (hrun : RunAround p text offset start stop)
    (hstart : start ≤ other) (hstop : other ≤ stop) : RunAround p text other start stop :=
  ⟨hstart, hstop, hrun.holds, hrun.opens, hrun.stops⟩

/-- No run around an offset starts behind another one. -/
theorem RunAround.start_le_start {offset start' stop' : Nat}
    (hrun : RunAround p text offset start stop) (hrun' : RunAround p text offset start' stop') :
    start' ≤ start := by
  by_contra hlt
  obtain ⟨before, rfl⟩ : ∃ before, start' = before + 1 := ⟨start' - 1, by omega⟩
  have hoffset := hrun'.start_le
  have hstop := hrun.le_stop
  exact hrun'.opens before rfl (hrun.holds before (by omega) (by omega))

/-- Around an offset there is one run only. -/
theorem RunAround.unique {offset start' stop' : Nat} (hrun : RunAround p text offset start stop)
    (hrun' : RunAround p text offset start' stop') : start = start' ∧ stop = stop' := by
  constructor
  · exact Nat.le_antisymm (hrun'.start_le_start hrun) (hrun.start_le_start hrun')
  · exact IsLeast.unique hrun.firstStop hrun'.firstStop

theorem RunAround.lt_of_adjoins {offset : Nat} (hrun : RunAround p text offset start stop)
    (h : Adjoins p text offset) : start < stop := by
  have hstart := hrun.start_le
  have hstop := hrun.le_stop
  rcases h with hat | ⟨k, rfl, hbefore⟩
  · have hne : stop ≠ offset := fun heq => hrun.stops.not_holdsAt (heq ▸ hat)
    omega
  · have hne : start ≠ k + 1 := fun heq => hrun.opens k heq.symm hbefore
    omega

theorem exists_opening (p : Char → Bool) (text : List Char) (offset : Nat) :
    ∃ start, start ≤ offset ∧ (∀ k, start ≤ k → k < offset → HoldsAt p text k) ∧
      ∀ k, k + 1 = start → ¬HoldsAt p text k := by
  induction offset with
  | zero => exact ⟨0, Nat.le_refl 0, by omega, by omega⟩
  | succ offset ih =>
    by_cases hlast : HoldsAt p text offset
    · obtain ⟨start, hle, hholds, hopens⟩ := ih
      refine ⟨start, Nat.le_succ_of_le hle, fun k hstart hk => ?_, hopens⟩
      rcases Nat.lt_succ_iff_lt_or_eq.mp hk with hk | rfl
      · exact hholds k hstart hk
      · exact hlast
    · refine ⟨offset + 1, Nat.le_refl _, by omega, fun k hk => ?_⟩
      obtain rfl : k = offset := Nat.succ.inj hk
      exact hlast

theorem FirstStop.exists_runAround {offset : Nat} (h : FirstStop p text offset stop) :
    ∃ start, RunAround p text offset start stop := by
  obtain ⟨hle, hstops, hbehind⟩ := firstStop_iff.mp h
  obtain ⟨start, hstart, hfront, hopens⟩ := exists_opening p text offset
  refine ⟨start, hstart, hle, fun k hk hlt => ?_, hopens, hstops⟩
  by_cases hoffset : k < offset
  · exact hfront k hk hoffset
  · exact hbehind k (Nat.le_of_not_lt hoffset) hlt

/-- Whether a class holds a line break is decided on the few there are. -/
theorem eq_false_of_mem_breaks (h : breaks.all (fun c => !p c) = true) {c : Char}
    (hc : c ∈ breaks) : p c = false := by
  simpa using List.all_eq_true.mp h c hc

/-- A run in which no line ends is on one line. -/
theorem RunAround.lineStartsAt {offset line : Nat} (hrun : RunAround p text offset start stop)
    (hclean : ∀ c ∈ breaks, p c = false) (hline : LineStartsAt text offset line)
    (hstart : start ≤ k) (hstop : k ≤ stop) : line ≤ start ∧ LineStartsAt text k line := by
  have hnone : ∀ j, start < j → j ≤ stop → ¬BreakEndsAt text j := by
    rintro j hj hle ⟨before, c, after, rfl, rfl, hc, -⟩
    obtain ⟨c', hc', hclass⟩ := hrun.holds before.length (Nat.le_of_lt_succ hj) hle
    obtain rfl : c = c' := by simpa using hc'
    rw [hclean c hc] at hclass
    exact Bool.noConfusion hclass
  have hle : line ≤ start := by
    rcases hline.opens with rfl | hbreak
    · exact Nat.zero_le _
    · by_contra hlt
      exact hnone line (Nat.lt_of_not_le hlt) (Nat.le_trans hline.le hrun.le_stop) hbreak
  refine ⟨hle, Nat.le_trans hle hstart, hline.opens, fun j hj hk hbreak => ?_⟩
  by_cases hoffset : j ≤ offset
  · exact hline.last j hj hoffset hbreak
  · have hfront := hrun.start_le
    exact hnone j (by omega) (Nat.le_trans hk hstop) hbreak

/-! ## Words -/

theorem isWord_eq_false_of_mem_breaks {c : Char} (h : c ∈ breaks) : isWord c = false :=
  eq_false_of_mem_breaks (by decide +kernel) h

/-- In front of an offset stands the word that ends there, and no character of a word in front of
that. -/
theorem exists_front_wordBefore (b : Buffer) (offset : Nat) :
    ∃ front, b.chars.take (b.clamp offset) = front ++ (b.wordBefore offset).toList ∧
      b.wordStart offset = front.length ∧
      (∀ c ∈ (b.wordBefore offset).toList, isWord c = true) ∧
      ∀ c, front.getLast? = some c → isWord c = false := by
  obtain ⟨front, word, hcut, hfront, hword⟩ : ∃ front word,
      b.chars.take (b.clamp offset) = front ++ word ∧
        front = ((b.chars.take (b.clamp offset)).reverse.dropWhile isWord).reverse ∧
        word = ((b.chars.take (b.clamp offset)).reverse.takeWhile isWord).reverse := by
    refine ⟨_, _, ?_, rfl, rfl⟩
    rw [← List.reverse_append, List.takeWhile_append_dropWhile, List.reverse_reverse]
  have hstart : b.wordStart offset = front.length := by
    have hsum := congrArg List.length hcut
    rw [List.length_append, length_take_clamp, hword, List.length_reverse] at hsum
    simp only [wordStart]
    omega
  have hbefore : (b.wordBefore offset).toList = word := by
    rw [wordBefore, String.toList_ofList, slice_eq, hcut, hstart, List.drop_left]
  rw [hbefore]
  refine ⟨front, hcut, hstart, fun c hc => ?_, fun c hc => ?_⟩
  · rw [hword, List.mem_reverse] at hc
    exact List.mem_takeWhile_imp hc
  · rw [hfront, List.getLast?_reverse] at hc
    have hhead := List.head?_dropWhile_not isWord (b.chars.take (b.clamp offset)).reverse
    rwa [hc] at hhead

/-- The word around an offset goes from its start to its end. -/
theorem runAround_word (b : Buffer) (offset : Nat) :
    RunAround isWord b.chars (b.clamp offset) (b.wordStart offset) (b.wordEnd offset) := by
  obtain ⟨hle, hstops, hbehind⟩ := firstStop_iff.mp (wordEnd_firstStop b offset)
  obtain ⟨front, hcut, hstart, hword, hfront⟩ := exists_front_wordBefore b offset
  generalize (b.wordBefore offset).toList = word at hcut hword
  have hlength : front.length + word.length = b.clamp offset := by
    rw [← List.length_append, ← hcut, length_take_clamp]
  have htext : b.chars = front ++ (word ++ b.chars.drop (b.clamp offset)) := by
    rw [← List.append_assoc, ← hcut, List.take_append_drop]
  rw [hstart]
  refine ⟨by omega, hle, fun k hk hstop => ?_, fun k hk hholds => ?_, hstops⟩
  · by_cases hoffset : k < b.clamp offset
    · rw [htext]
      exact holdsAt_append hword hk (by omega)
    · exact hbehind k (Nat.le_of_not_lt hoffset) hstop
  · obtain ⟨c, hc, hclass⟩ := hholds
    have hlast : front.getLast? = some c := by
      rw [htext, List.getElem?_append_left (by omega)] at hc
      rw [List.getLast?_eq_getElem?, ← hk, Nat.add_sub_cancel, hc]
    rw [hfront c hlast] at hclass
    exact Bool.noConfusion hclass

theorem wordEnd_le_length (b : Buffer) (offset : Nat) : b.wordEnd offset ≤ b.length :=
  (runAround_word b offset).stops.le_length

/-- All offsets of a word have the same word. -/
theorem word_eq_of_within {b : Buffer} {offset other : Nat} (hstart : b.wordStart offset ≤ other)
    (hstop : other ≤ b.wordEnd offset) :
    b.wordStart other = b.wordStart offset ∧ b.wordEnd other = b.wordEnd offset := by
  have hother := runAround_word b other
  rw [clamp_of_le (Nat.le_trans hstop (wordEnd_le_length b offset))] at hother
  exact hother.unique ((runAround_word b offset).move hstart hstop)

/-- Two words are one word, or they have a character in between. -/
theorem word_eq_or_apart (b : Buffer) (offset other : Nat) :
    (b.wordStart other = b.wordStart offset ∧ b.wordEnd other = b.wordEnd offset) ∨
      b.wordEnd offset < b.wordStart other ∨ b.wordEnd other < b.wordStart offset := by
  by_cases hapart : b.wordEnd offset < b.wordStart other ∨ b.wordEnd other < b.wordStart offset
  · exact Or.inr hapart
  -- Otherwise the later one of the two starts is an offset of both words.
  · left
    have hword := runAround_word b offset
    have hword' := runAround_word b other
    have hle := Nat.le_trans hword.start_le hword.le_stop
    have hle' := Nat.le_trans hword'.start_le hword'.le_stop
    generalize hshared : max (b.wordStart offset) (b.wordStart other) = shared
    obtain ⟨hstart, hstop⟩ := @word_eq_of_within b offset shared (by omega) (by omega)
    obtain ⟨hstart', hstop'⟩ := @word_eq_of_within b other shared (by omega) (by omega)
    exact ⟨hstart'.symm.trans hstart, hstop'.symm.trans hstop⟩

/-! ## The law -/

/-- Around every offset there is one word, which may be empty: all of it is of the class, neither
neighbour is, and its offsets have the same word, so moving on from its start or its end leads
nowhere else. Different words have a character in between. What stands between the start and the end
is the word, and what stands between the start and the offset is the word in front of the offset. -/
theorem words_part_the_text (b : Buffer) (offset : Nat) :
    RunAround isWord b.chars (min offset b.length) (b.wordStart offset) (b.wordEnd offset) ∧
      b.wordEnd offset ≤ b.length ∧
      (∀ other, b.wordStart offset ≤ other → other ≤ b.wordEnd offset →
        b.wordStart other = b.wordStart offset ∧ b.wordEnd other = b.wordEnd offset) ∧
      b.wordStart (b.wordStart offset) = b.wordStart offset ∧
      b.wordEnd (b.wordEnd offset) = b.wordEnd offset ∧
      (∀ other, (b.wordStart other = b.wordStart offset ∧ b.wordEnd other = b.wordEnd offset) ∨
        b.wordEnd offset < b.wordStart other ∨ b.wordEnd other < b.wordStart offset) ∧
      (∃ front rest,
        b.chars = front ++ (b.slice (b.wordStart offset) (b.wordEnd offset) ++ rest) ∧
          front.length = b.wordStart offset ∧
          front.length + (b.slice (b.wordStart offset) (b.wordEnd offset)).length =
            b.wordEnd offset) ∧
      (b.wordBefore offset).toList = b.slice (b.wordStart offset) (min offset b.length) := by
  have hword := runAround_word b offset
  have hle := Nat.le_trans hword.start_le hword.le_stop
  have hlength := wordEnd_le_length b offset
  refine ⟨hword, hlength, fun other => word_eq_of_within, ?_, ?_, word_eq_or_apart b offset,
    exists_around_slice hle hlength, ?_⟩
  · exact (word_eq_of_within (Nat.le_refl _) hle).1
  · exact (word_eq_of_within hle (Nat.le_refl _)).2
  · exact String.toList_ofList.trans (slice_clamp_stop b _ offset).symm

example : (Buffer.ofString "fo_é'x").wordStart 2 = 0 ∧ (Buffer.ofString "fo_é'x").wordEnd 2 = 4 := by
  decide +kernel

end OcamlAssist.Buffer
