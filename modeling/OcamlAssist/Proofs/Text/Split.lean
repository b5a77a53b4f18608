-- What the cutting functions give: pieces that were joined come apart again, a
-- cut is at the first separator, and the longest accepted suffix has every
-- other accepted suffix at its end.
import OcamlAssist.Text.Split
import Mathlib.Data.List.Infix

namespace OcamlAssist.Text

/-! ## Pieces -/

theorem pieces_of_no_separator {isSeparator : Char → Bool} {text : List Char}
    (h : ∀ c ∈ text, isSeparator c = false) : pieces isSeparator text = [text] := by
  induction text with
  | nil => rfl
  | cons c rest ih =>
    have hrest := ih fun x hx => h x (List.mem_cons_of_mem c hx)
    rw [pieces, h c List.mem_cons_self, hrest]
    rfl

theorem pieces_head? (isSeparator : Char → Bool) (text : List Char) :
    (pieces isSeparator text).head? = some (text.takeWhile fun c => !isSeparator c) := by
  induction text with
  | nil => rfl
  | cons c rest ih =>
    by_cases hc : isSeparator c = true
    · simp [pieces, hc]
    · rw [pieces, if_neg hc]
      cases hpieces : pieces isSeparator rest with
      | nil => simp [hpieces] at ih
      | cons piece others =>
        rw [hpieces, List.head?_cons, Option.some.injEq] at ih
        simp [hc, ih]

theorem pieces_ne_nil (isSeparator : Char → Bool) (text : List Char) :
    pieces isSeparator text ≠ [] := by
  intro h
  have hhead := pieces_head? isSeparator text
  rw [h] at hhead
  cases hhead

/-- The pieces on both sides of a separator are cut apart from each other. -/
theorem pieces_append_separator {isSeparator : Char → Bool} {s : Char}
    (hs : isSeparator s = true) (before after : List Char) :
    pieces isSeparator (before ++ s :: after) =
      pieces isSeparator before ++ pieces isSeparator after := by
  induction before with
  | nil => simp [pieces, hs]
  | cons c rest ih =>
    obtain ⟨piece, others, hpieces⟩ := List.exists_cons_of_ne_nil (pieces_ne_nil isSeparator rest)
    by_cases hc : isSeparator c = true
    · simp [pieces, hc, ih]
    · simp [pieces, hc, ih, hpieces]

theorem piecesAt_append_separator (separator : Char) (before after : List Char) :
    piecesAt separator (before ++ separator :: after) =
      piecesAt separator before ++ piecesAt separator after :=
  pieces_append_separator (by simp) before after

theorem pieces_append_cons {isSeparator : Char → Bool} {before : List Char} {s : Char}
    (h : ∀ c ∈ before, isSeparator c = false) (hs : isSeparator s = true) (after : List Char) :
    pieces isSeparator (before ++ s :: after) = before :: pieces isSeparator after := by
  rw [pieces_append_separator hs, pieces_of_no_separator h]
  rfl

theorem join_cons_of_ne_nil (separator piece : List Char) {rest : List (List Char)}
    (h : rest ≠ []) :
    join separator (piece :: rest) = piece ++ (separator ++ join separator rest) := by
  rw [join, List.append_assoc]
  exact h

theorem join_cons_cons (separator piece next : List Char) (rest : List (List Char)) :
    join separator (piece :: next :: rest) =
      piece ++ (separator ++ join separator (next :: rest)) :=
  join_cons_of_ne_nil separator piece (List.cons_ne_nil next rest)

theorem suffix_join (separator : List Char) (front : List (List Char)) (last : List Char) :
    last <:+ join separator (front ++ [last]) := by
  induction front with
  | nil => exact List.suffix_rfl
  | cons piece front ih =>
    have hne : front ++ [last] ≠ [] := by simp
    rw [List.cons_append, join_cons_of_ne_nil separator piece hne]
    exact ih.trans ((List.suffix_append separator _).trans (List.suffix_append piece _))

/-- Joined pieces begin with the first of them. -/
theorem prefix_join (separator piece : List Char) (rest : List (List Char)) :
    piece <+: join separator (piece :: rest) := by
  cases rest with
  | nil => exact List.prefix_rfl
  | cons next rest =>
    rw [join_cons_cons]
    exact List.prefix_append piece _

/-- The first pieces, joined, begin all pieces, joined. -/
theorem join_prefix_join (separator : List Char) {front all : List (List Char)} (h : front <+: all) :
    join separator front <+: join separator all := by
  induction front generalizing all with
  | nil => exact List.nil_prefix
  | cons piece rest ih =>
    obtain ⟨more, rfl⟩ := h
    cases rest with
    | nil => exact prefix_join separator piece more
    | cons next rest =>
      simp only [List.cons_append, join_cons_cons] at ih ⊢
      exact List.prefix_append_right_inj piece |>.mpr
        (List.prefix_append_right_inj separator |>.mpr (ih ⟨more, rfl⟩))

theorem join_cons_head (separator piece : List Char) (c : Char) (rest : List (List Char)) :
    join separator ((c :: piece) :: rest) = c :: join separator (piece :: rest) := by
  cases rest with
  | nil => rfl
  | cons next rest => rw [join_cons_cons, join_cons_cons, List.cons_append]

/-- Pieces that hold no separator come apart as they were put together. -/
theorem piecesAt_join {separator : Char} {ls : List (List Char)} (hne : ls ≠ [])
    (h : ∀ l ∈ ls, separator ∉ l) : piecesAt separator (join [separator] ls) = ls := by
  have hclean (l : List Char) (hl : l ∈ ls) : ∀ c ∈ l, (c == separator) = false := by
    intro c hc
    rw [beq_eq_false_iff_ne]
    rintro rfl
    exact h l hl hc
  induction ls with
  | nil => exact absurd rfl hne
  | cons l rest ih =>
    have hl := hclean l List.mem_cons_self
    cases rest with
    | nil => exact pieces_of_no_separator hl
    | cons l' rest =>
      rw [join_cons_cons, List.singleton_append, piecesAt, pieces_append_cons hl (by simp),
        ← piecesAt, ih (by simp)]
      · exact fun x hx => h x (List.mem_cons_of_mem l hx)
      · exact fun x hx => hclean x (List.mem_cons_of_mem l hx)

/-- Pieces go together as they came apart. -/
theorem join_piecesAt (separator : Char) (text : List Char) :
    join [separator] (piecesAt separator text) = text := by
  unfold piecesAt
  induction text with
  | nil => rfl
  | cons c rest ih =>
    obtain ⟨piece, others, hpieces⟩ := List.exists_cons_of_ne_nil (pieces_ne_nil (· == separator) rest)
    rw [hpieces] at ih
    by_cases hc : c = separator
    · subst hc
      rw [pieces, if_pos (beq_self_eq_true c), hpieces, join_cons_cons, ih]
      rfl
    · rw [pieces, if_neg (by simpa using hc), hpieces]
      exact (join_cons_head [separator] piece c others).trans (congrArg _ ih)

/-- A text without separators stands in another text, between separators or the ends. -/
structure StandsIn (isSeparator : Char → Bool) (piece text : List Char) : Prop where
  clean : ∀ c ∈ piece, isSeparator c = false
  between : ∃ before after, text = before ++ (piece ++ after) ∧
    (∀ s ∈ before.getLast?, isSeparator s = true) ∧ ∀ s ∈ after.head?, isSeparator s = true

theorem mem_pieces_of_standsIn {isSeparator : Char → Bool} {piece text : List Char}
    (h : StandsIn isSeparator piece text) : piece ∈ pieces isSeparator text := by
  obtain ⟨hclean, before, after, rfl, hbefore, hafter⟩ := h
  have hpiece : piece ∈ pieces isSeparator (piece ++ after) := by
    cases after with
    | nil => simp [pieces_of_no_separator hclean]
    | cons s after =>
      rw [pieces_append_cons hclean (hafter s rfl)]
      exact List.mem_cons_self
  rcases List.eq_nil_or_concat' before with rfl | ⟨front, s, rfl⟩
  · exact hpiece
  · have hs : isSeparator s = true := hbefore s (by simp)
    rw [List.append_assoc, List.singleton_append, pieces_append_separator hs]
    exact List.mem_append_right _ hpiece

/-- What holds of texts without separators, and of a text with a separator if it holds on both sides
of that, holds of all texts. -/
theorem separated_induction (isSeparator : Char → Bool) {motive : List Char → Prop}
    (clean : ∀ text, (∀ c ∈ text, isSeparator c = false) → motive text)
    (cut : ∀ front s back, isSeparator s = true → motive front → motive back →
      motive (front ++ s :: back))
    (text : List Char) : motive text := by
  induction hlength : text.length using Nat.strong_induction_on generalizing text with
  | _ n ih =>
    subst hlength
    by_cases hclean : ∀ c ∈ text, isSeparator c = false
    · exact clean text hclean
    · simp only [not_forall, Bool.not_eq_false] at hclean
      obtain ⟨s, hmem, hs⟩ := hclean
      obtain ⟨front, back, rfl⟩ := List.append_of_mem hmem
      exact cut front s back hs (ih _ (by simp) front rfl) (ih _ (by simp; omega) back rfl)

theorem standsIn_of_mem_pieces {isSeparator : Char → Bool} {piece text : List Char}
    (h : piece ∈ pieces isSeparator text) : StandsIn isSeparator piece text := by
  induction text using separated_induction isSeparator with
  | clean text hclean =>
    rw [pieces_of_no_separator hclean, List.mem_singleton] at h
    subst h
    exact ⟨hclean, [], [], by simp, by simp, by simp⟩
  | cut front s back hs hfront hback =>
    -- The piece stands in one of the parts.
    rw [pieces_append_separator hs, List.mem_append] at h
    rcases h with h | h
    · obtain ⟨hpiece, before, after, rfl, hbefore, hafter⟩ := hfront h
      refine ⟨hpiece, before, after ++ s :: back, by simp, hbefore, ?_⟩
      cases after with
      | nil => simpa using hs
      | cons c after => simpa using hafter
    · obtain ⟨hpiece, before, after, rfl, hbefore, hafter⟩ := hback h
      rcases List.eq_nil_or_concat' before with rfl | ⟨before, c, rfl⟩
      · exact ⟨hpiece, front ++ [s], after, by simp, by simpa using hs, hafter⟩
      · refine ⟨hpiece, front ++ s :: before ++ [c], after, by simp, ?_, hafter⟩
        rw [List.getLast?_concat] at hbefore ⊢
        exact hbefore

theorem mem_pieces_iff {isSeparator : Char → Bool} {piece text : List Char} :
    piece ∈ pieces isSeparator text ↔ StandsIn isSeparator piece text :=
  ⟨standsIn_of_mem_pieces, mem_pieces_of_standsIn⟩

/-- No piece holds a separator. -/
theorem not_separator_of_mem_pieces {isSeparator : Char → Bool} {text piece : List Char}
    (h : piece ∈ pieces isSeparator text) {c : Char} (hc : c ∈ piece) : isSeparator c = false :=
  (standsIn_of_mem_pieces h).clean c hc

/-! ## Words -/

/-- A word of a text: it is not empty, and stands between white space or the ends. -/
def IsWordOf (word text : List Char) : Prop := word ≠ [] ∧ StandsIn Chars.isBlank word text

theorem mem_words_iff {word text : List Char} : word ∈ words text ↔ IsWordOf word text := by
  unfold words IsWordOf
  rw [List.mem_filter, mem_pieces_iff, and_comm]
  simp

theorem words_append_blank {b : Char} (hb : Chars.isBlank b = true) (before after : List Char) :
    words (before ++ b :: after) = words before ++ words after := by
  unfold words
  rw [pieces_append_separator hb, List.filter_append]

/-- The first word goes from the first character that is no white space up to the next white
space. -/
theorem words_headD (text : List Char) :
    (words text).headD [] = (trimStart text).takeWhile fun c => !Chars.isBlank c := by
  induction text with
  | nil => rfl
  | cons c rest ih =>
    by_cases hc : Chars.isBlank c = true
    · rw [trimStart, List.dropWhile_cons_of_pos hc, ← trimStart, ← ih]
      simp [words, pieces, hc]
    · have hhead := pieces_head? Chars.isBlank (c :: rest)
      rw [trimStart, List.dropWhile_cons_of_neg hc]
      rw [List.head?_eq_some_iff] at hhead
      obtain ⟨others, hothers⟩ := hhead
      rw [words, hothers]
      simp [hc]

/-! ## Cuts -/

theorem cutAt_eq_some_iff {separator : Char} {text before after : List Char} :
    cutAt separator text = some (before, after) ↔
      text = before ++ separator :: after ∧ separator ∉ before := by
  induction text generalizing before with
  | nil => simp [cutAt]
  | cons c rest ih =>
    rw [cutAt]
    by_cases hc : c = separator
    · subst hc
      cases before with
      | nil => simp [eq_comm]
      | cons b before =>
        simp only [beq_self_eq_true, if_true, Option.some.injEq, Prod.mk.injEq, List.cons_append,
          List.cons.injEq, List.mem_cons, not_or]
        constructor
        · rintro ⟨h, -⟩
          cases h
        · rintro ⟨⟨h, -⟩, h', -⟩
          exact absurd h h'
    · rw [if_neg (by simpa using hc)]
      cases before with
      | nil =>
        simp only [Option.map_eq_some_iff, Prod.mk.injEq, reduceCtorEq, false_and, and_false,
          exists_false, List.nil_append, List.cons.injEq, hc]
      | cons b before =>
        simp only [Option.map_eq_some_iff, Prod.exists, Prod.mk.injEq, List.cons.injEq,
          List.cons_append, List.mem_cons, not_or]
        constructor
        · rintro ⟨x, y, hxy, ⟨rfl, rfl⟩, rfl⟩
          obtain ⟨hrest, hnot⟩ := ih.mp hxy
          exact ⟨⟨rfl, hrest⟩, Ne.symm hc, hnot⟩
        · rintro ⟨⟨rfl, hrest⟩, -, hnot⟩
          exact ⟨before, after, ih.mpr ⟨hrest, hnot⟩, ⟨rfl, rfl⟩, rfl⟩

theorem cutAt_append {separator : Char} {before : List Char} (h : separator ∉ before)
    (after : List Char) : cutAt separator (before ++ separator :: after) = some (before, after) :=
  cutAt_eq_some_iff.mpr ⟨rfl, h⟩

theorem cutAt_eq_none_iff {separator : Char} {text : List Char} :
    cutAt separator text = none ↔ separator ∉ text := by
  constructor
  · intro hnone hmem
    obtain ⟨before, after, rfl, hbefore⟩ := List.eq_append_cons_of_mem hmem
    exact absurd (hnone.symm.trans (cutAt_append hbefore after)) (by simp)
  · intro h
    rw [Option.eq_none_iff_forall_ne_some]
    rintro ⟨before, after⟩ hcut
    obtain ⟨rfl, -⟩ := cutAt_eq_some_iff.mp hcut
    exact h (by simp)

/-! ## Ends -/

theorem after?_append (start rest : List Char) : after? start (start ++ rest) = some rest := by
  induction start with
  | nil => rfl
  | cons c start ih => simpa [after?] using ih

theorem after?_eq_some_iff {start text rest : List Char} :
    after? start text = some rest ↔ text = start ++ rest := by
  constructor
  · intro h
    induction start generalizing text with
    | nil => exact Option.some.inj h
    | cons s start ih =>
      cases text with
      | nil => cases h
      | cons c text =>
        rw [after?] at h
        split at h
        · rename_i hc
          rw [ih h, eq_of_beq hc]
          rfl
        · cases h
  · rintro rfl
    exact after?_append start rest

theorem mem_of_mem_trim {text : List Char} {c : Char} (h : c ∈ trim text) : c ∈ text := by
  unfold trim trimEnd trimStart at h
  rw [List.mem_reverse] at h
  have hstart := List.mem_reverse.mp ((List.dropWhile_sublist _).mem h)
  exact (List.dropWhile_sublist _).mem hstart

/-! ## Suffixes -/

/-- What ends two texts in a row ends the second, or is all of it with an end of the first. -/
theorem suffix_append_cases {front text s : List Char} (h : s <:+ front ++ text) :
    s <:+ text ∨ ∃ w, w ≠ [] ∧ s = w ++ text ∧ w <:+ front := by
  rcases List.suffix_or_suffix_of_suffix h (List.suffix_append front text) with hs | ⟨w, rfl⟩
  · exact Or.inl hs
  · by_cases hw : w = []
    · exact Or.inl (by rw [hw]; exact List.suffix_rfl)
    · exact Or.inr ⟨w, hw, rfl, List.suffix_append_self_iff.mp h⟩

theorem longestSuffix?_eq_none_iff {accepts : List Char → Bool} {text : List Char} :
    longestSuffix? accepts text = none ↔ ∀ s, s <:+ text → accepts s = false := by
  induction text with
  | nil => simp [longestSuffix?]
  | cons c rest ih =>
    rw [longestSuffix?]
    split
    · rename_i h
      simp only [reduceCtorEq, false_iff, not_forall]
      exact ⟨c :: rest, List.suffix_rfl, by simp [h]⟩
    · rename_i h
      rw [ih]
      simp only [List.suffix_cons_iff, forall_eq_or_imp]
      simp [h]

/-- An accepted suffix at whose end every other accepted suffix stands. -/
def IsLongestSuffix (accepts : List Char → Bool) (text found : List Char) : Prop :=
  found <:+ text ∧ accepts found = true ∧ ∀ s, s <:+ text → accepts s = true → s <:+ found

theorem isLongestSuffix_congr {accepts : List Char → Bool} {text text' found : List Char}
    (h : ∀ s, accepts s = true → (s <:+ text ↔ s <:+ text')) :
    IsLongestSuffix accepts text found ↔ IsLongestSuffix accepts text' found := by
  constructor
  · rintro ⟨hsuffix, haccepts, hall⟩
    exact ⟨(h found haccepts).mp hsuffix, haccepts, fun s hs hs' => hall s ((h s hs').mpr hs) hs'⟩
  · rintro ⟨hsuffix, haccepts, hall⟩
    exact ⟨(h found haccepts).mpr hsuffix, haccepts, fun s hs hs' => hall s ((h s hs').mp hs) hs'⟩

theorem isLongestSuffix_of_accepts {accepts : List Char → Bool} {text found : List Char}
    (h : accepts text = true) : IsLongestSuffix accepts text found ↔ text = found := by
  constructor
  · rintro ⟨hsuffix, -, hall⟩
    exact (hall text List.suffix_rfl h).eq_of_length_le hsuffix.length_le
  · rintro rfl
    exact ⟨List.suffix_rfl, h, fun s hs _ => hs⟩

theorem longestSuffix?_eq_some_iff {accepts : List Char → Bool} {text found : List Char} :
    longestSuffix? accepts text = some found ↔ IsLongestSuffix accepts text found := by
  induction text with
  | nil =>
    rw [longestSuffix?]
    split
    · rename_i h
      rw [isLongestSuffix_of_accepts h, Option.some.injEq]
    · rename_i h
      simp only [reduceCtorEq, false_iff]
      rintro ⟨hsuffix, haccepts, -⟩
      rw [List.suffix_nil.mp hsuffix] at haccepts
      exact h haccepts
  | cons c rest ih =>
    rw [longestSuffix?]
    split
    · rename_i h
      rw [isLongestSuffix_of_accepts h, Option.some.injEq]
    · rename_i h
      rw [ih]
      refine isLongestSuffix_congr fun s hs => ⟨fun h' => h'.trans (List.suffix_cons c rest), ?_⟩
      intro hsuffix
      rcases List.suffix_cons_iff.mp hsuffix with rfl | hsuffix
      · exact absurd hs h
      · exact hsuffix

/-- Texts that end in the same accepted suffixes have the same longest one. -/
theorem longestSuffix?_congr {accepts : List Char → Bool} {text text' : List Char}
    (h : ∀ s, accepts s = true → (s <:+ text ↔ s <:+ text')) :
    longestSuffix? accepts text = longestSuffix? accepts text' := by
  ext found
  rw [longestSuffix?_eq_some_iff, longestSuffix?_eq_some_iff]
  exact isLongestSuffix_congr h

/-! ## First occurrences -/

/-- The first element that passes a test, if not all of them fail it. -/
theorem exists_first {α : Type} {test : α → Bool} {list : List α}
    (h : ¬∀ x ∈ list, test x = false) :
    ∃ front x rest, list = front ++ x :: rest ∧ (∀ y ∈ front, test y = false) ∧ test x = true := by
  cases hfind : list.find? test with
  | none =>
    have hnone := List.find?_eq_none.mp hfind
    exact absurd (fun x hx => Bool.eq_false_iff.mpr (hnone x hx)) h
  | some x =>
    obtain ⟨hx, front, rest, rfl, hfront⟩ := List.find?_eq_some_iff_append.mp hfind
    exact ⟨front, x, rest, rfl, by simpa using hfront, hx⟩

/-- A text from the first place on where a piece occurs in it. -/
def IsFromFirst (piece text tail : List Char) : Prop :=
  tail <:+ text ∧ piece <+: tail ∧ ∀ s, s <:+ text → piece <+: s → s <:+ tail

theorem fromFirst?_eq_some_iff {piece text tail : List Char} :
    fromFirst? piece text = some tail ↔ IsFromFirst piece text tail := by
  unfold fromFirst? IsFromFirst
  simp only [longestSuffix?_eq_some_iff, IsLongestSuffix, List.isPrefixOf_iff_prefix]

theorem fromFirst?_eq_none_iff {piece text : List Char} :
    fromFirst? piece text = none ↔ ¬piece <:+: text := by
  unfold fromFirst?
  rw [longestSuffix?_eq_none_iff, List.infix_iff_prefix_suffix]
  constructor
  · rintro hnone ⟨s, hprefix, hsuffix⟩
    have hno := hnone s hsuffix
    rw [List.isPrefixOf_iff_prefix.mpr hprefix] at hno
    exact Bool.noConfusion hno
  · intro hnot s hsuffix
    rw [Bool.eq_false_iff, Ne, List.isPrefixOf_iff_prefix]
    exact fun hprefix => hnot ⟨s, hprefix, hsuffix⟩

/-- A piece without separators does not go on behind a separator. -/
theorem prefix_append_separator_iff {piece : List Char} {separator : Char}
    (hpiece : separator ∉ piece) (before after : List Char) :
    piece <+: before ++ separator :: after ↔ piece <+: before := by
  constructor
  · intro h
    have hbegins := List.prefix_append before (separator :: after)
    rcases List.prefix_or_prefix_of_prefix h hbegins with hbefore | ⟨tail, rfl⟩
    · exact hbefore
    · cases tail with
      | nil => simp
      | cons c tail =>
        have hc := List.cons_prefix_cons.mp ((List.prefix_append_right_inj before).mp h)
        rw [hc.1] at hpiece
        exact absurd (by simp) hpiece
  · exact fun h => h.trans (List.prefix_append before _)

/-- What comes first in a text with a separator comes first in front of it, or else behind it. -/
theorem fromFirst?_append_separator {piece : List Char} {separator : Char} (hne : piece ≠ [])
    (hpiece : separator ∉ piece) (before after : List Char) :
    fromFirst? piece (before ++ separator :: after) =
      ((fromFirst? piece before).map (· ++ separator :: after)).or (fromFirst? piece after) := by
  unfold fromFirst?
  have hnil : ¬piece <+: [] := fun h => hne (List.prefix_nil.mp h)
  induction before with
  | nil =>
    have hseparator : ¬piece <+: separator :: after := by
      intro h
      exact hnil ((prefix_append_separator_iff hpiece [] after).mp h)
    simp [longestSuffix?, List.isPrefixOf_iff_prefix, hnil, hseparator]
  | cons c before ih =>
    have hsame := prefix_append_separator_iff hpiece (c :: before) after
    rw [List.cons_append] at hsame ⊢
    by_cases hprefix : piece <+: c :: before
    · simp [longestSuffix?, List.isPrefixOf_iff_prefix, hsame, hprefix]
    · simp only [longestSuffix?, List.isPrefixOf_iff_prefix, hsame, hprefix, if_false, ih]

/-! ## What holds no separator -/

/-- A piece without separators stands on one side of a separator. -/
theorem isInfix_append_separator_iff {piece : List Char} {separator : Char}
    (hpiece : separator ∉ piece) (before after : List Char) :
    piece <:+: before ++ separator :: after ↔ piece <:+: before ∨ piece <:+: after := by
  constructor
  · intro h
    obtain ⟨s, hbegins, hsuffix⟩ := List.infix_iff_prefix_suffix.mp h
    rcases suffix_append_cases hsuffix with hsuffix | ⟨w, -, rfl, hw⟩
    · rcases List.suffix_cons_iff.mp hsuffix with rfl | hsuffix
      · have hnil := (prefix_append_separator_iff hpiece [] after).mp hbegins
        exact Or.inl (hnil.isInfix.trans List.nil_infix)
      · exact Or.inr (hbegins.isInfix.trans hsuffix.isInfix)
    · have hfront := (prefix_append_separator_iff hpiece w after).mp hbegins
      exact Or.inl (hfront.isInfix.trans hw.isInfix)
  · rintro (h | h)
    · exact h.trans (List.prefix_append before _).isInfix
    · exact h.trans ((List.suffix_cons separator after).trans (List.suffix_append before _)).isInfix

/-- What holds no separator stands in one of the pieces. -/
theorem exists_piece_of_isInfix {isSeparator : Char → Bool} {part text : List Char}
    (hpart : ∀ c ∈ part, isSeparator c = false) (h : part <:+: text) :
    ∃ piece ∈ pieces isSeparator text, part <:+: piece := by
  induction text using separated_induction isSeparator with
  | clean text hclean => exact ⟨text, by simp [pieces_of_no_separator hclean], h⟩
  | cut front s back hs hfront hback =>
    have hnot : s ∉ part := fun hmem => Bool.noConfusion (hs.symm.trans (hpart s hmem))
    rw [pieces_append_separator hs]
    rcases (isInfix_append_separator_iff hnot front back).mp h with h | h
    · obtain ⟨piece, hpiece, hin⟩ := hfront h
      exact ⟨piece, List.mem_append_left _ hpiece, hin⟩
    · obtain ⟨piece, hpiece, hin⟩ := hback h
      exact ⟨piece, List.mem_append_right _ hpiece, hin⟩

end OcamlAssist.Text
