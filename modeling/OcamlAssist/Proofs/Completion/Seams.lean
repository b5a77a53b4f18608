-- The law of the seam between two outputs of the index tool: put together at a
-- line feed they are read as they are read alone, and put together at a wrap
-- they are read as at a space. White space takes line feeds with it, so both
-- hold where the first ends, and the second begins, with text of its own line.
import OcamlAssist.Proofs.Completion.Listing

namespace OcamlAssist.Listing

open OcamlAssist.Chars OcamlAssist.Text

/-- No line feed is in the white space at the end of a text. -/
def EndsOnItsLine (text : List Char) : Prop :=
  ∀ gap, gap <:+ text → (∀ c ∈ gap, isBlank c = true) → '\n' ∉ gap

theorem endsOnItsLine_iff {text : List Char} :
    EndsOnItsLine text ↔ '\n' ∉ text.reverse.takeWhile isBlank := by
  constructor
  · intro h hmem
    have hsuffix : (text.reverse.takeWhile isBlank).reverse <:+ text := by
      rw [← List.reverse_prefix, List.reverse_reverse]
      exact List.takeWhile_prefix isBlank
    refine h _ hsuffix (fun c hc => ?_) (List.mem_reverse.mpr hmem)
    exact List.all_eq_true.mp List.all_takeWhile c (List.mem_reverse.mp hc)
  · rintro h gap ⟨front, rfl⟩ hgap hmem
    have hback : ∀ c ∈ gap.reverse, isBlank c = true := fun c hc => hgap c (List.mem_reverse.mp hc)
    rw [List.reverse_append, List.takeWhile_append_of_pos hback] at h
    exact h (List.mem_append_left _ (List.mem_reverse.mpr hmem))

instance (text : List Char) : Decidable (EndsOnItsLine text) :=
  decidable_of_iff ('\n' ∉ text.reverse.takeWhile isBlank) endsOnItsLine_iff.symm

theorem EndsOnItsLine.tail {c : Char} {text : List Char} (h : EndsOnItsLine (c :: text)) :
    EndsOnItsLine text :=
  fun gap hgap => h gap (hgap.trans (List.suffix_cons c text))

/-- Behind a line feed that such a text holds there is more than white space. -/
theorem EndsOnItsLine.exists_not_blank {text : List Char} (h : EndsOnItsLine ('\n' :: text)) :
    ∃ c ∈ text, isBlank c = false := by
  by_contra hall
  simp only [not_exists, not_and, Bool.not_eq_false] at hall
  refine h ('\n' :: text) List.suffix_rfl ?_ List.mem_cons_self
  intro c hc
  rcases List.mem_cons.mp hc with rfl | hc
  · decide +kernel
  · exact hall c hc

/-- What comes behind such a text has no part in how it is put together. White space that is being
passed over comes to an end inside the text. -/
theorem unwrap_append_of_endsOnItsLine {text : List Char} (h : EndsOnItsLine text)
    {skipping : Bool} (hskipping : skipping = true → ∃ c ∈ text, isBlank c = false)
    (rest : List Char) :
    unwrap skipping (text ++ rest) = unwrap skipping text ++ unwrap false rest := by
  induction text generalizing skipping with
  | nil =>
    cases skipping with
    | false => rfl
    | true => simp at hskipping
  | cons c text ih =>
    have hkept : unwrap false (text ++ rest) = unwrap false text ++ unwrap false rest :=
      ih h.tail (by simp)
    have hover (hmore : ∃ x ∈ text, isBlank x = false) :
        unwrap true (text ++ rest) = unwrap true text ++ unwrap false rest :=
      ih h.tail fun _ => hmore
    rw [List.cons_append, unwrap, unwrap]
    by_cases hpassed : (skipping && isBlank c) = true
    · obtain ⟨hskip, hc⟩ := Bool.and_eq_true_iff.mp hpassed
      rw [if_pos hpassed, if_pos hpassed]
      apply hover
      obtain ⟨x, hx, hblank⟩ := hskipping hskip
      rcases List.mem_cons.mp hx with rfl | hx
      · exact Bool.noConfusion (hc.symm.trans hblank)
      · exact ⟨x, hx, hblank⟩
    rw [if_neg hpassed, if_neg hpassed]
    by_cases hfeed : c = '\n'
    · subst hfeed
      obtain ⟨x, hx, hblank⟩ := h.exists_not_blank
      rw [startsBlank_append (List.ne_nil_of_mem hx), hover ⟨x, hx, hblank⟩, hkept]
      split
      · rw [List.cons_append]
      · rw [List.cons_append]
    · have hno : (c == '\n') = false := by simpa using hfeed
      rw [hno, hkept]
      rfl

/-! ## The law -/

/-- Two outputs that meet at a line feed are read as they are read alone, and a wrap where they meet
is read as a space, if no line feed is in the white space at the end of the first and the second
does not begin with white space. So no line has a part in the entry of another one, and no wrap at a
space has a part in any. -/
theorem lines_are_read_apart_and_wraps_as_spaces (typed first second : String)
    (hfirst : EndsOnItsLine first.toList) (hsecond : startsBlank second.toList = false) :
    entries (first ++ "\n" ++ second) typed = entries first typed ++ entries second typed ∧
      ∀ gap : String, gap ≠ "" → (∀ c ∈ gap.toList, isBlank c = true) →
        entries (first ++ "\n" ++ gap ++ second) typed = entries (first ++ " " ++ second) typed := by
  have hseam (rest : List Char) :
      unwrap false (first.toList ++ rest) = unwrap false first.toList ++ unwrap false rest :=
    unwrap_append_of_endsOnItsLine hfirst (by simp) rest
  constructor
  · have hunwrap : unwrap false (first ++ "\n" ++ second).toList =
        unwrap false first.toList ++ '\n' :: unwrap false second.toList := by
      rw [← unwrap_line_feed hsecond, ← hseam]
      simp
    unfold entries
    rw [hunwrap, piecesAt_append_separator, List.filterMap_append]
  · intro gap hne hgap
    have hgap' : gap.toList ≠ [] := fun h => hne (String.toList_eq_nil_iff.mp h)
    have hwrap : unwrap false ('\n' :: (gap.toList ++ second.toList)) =
        unwrap false (' ' :: second.toList) := unwrap_wrap hgap' hgap hsecond
    have htext : (first ++ "\n" ++ gap ++ second).toList =
        first.toList ++ '\n' :: (gap.toList ++ second.toList) := by simp
    have hspace : (first ++ " " ++ second).toList = first.toList ++ ' ' :: second.toList := by simp
    rw [entries, entries, htext, hspace, hseam, hseam, hwrap]

theorem a_listing_goes_on_behind_a_wrapped_type :
    ∃ first second : String, first = "loading\nList.map map value ('a -> 'b) ->\n\n    'a list \t" ∧
      second = "Stdlib.max max value 'a ->\n  'a\n" ∧
      (EndsOnItsLine first.toList ∧ startsBlank second.toList = false) ∧
      (entries (first ++ "\n" ++ second) "ma").map Item.pair =
        [("map\tvalue ('a -> 'b) -> 'a list", "map"), ("max\tvalue 'a -> 'a", "max")] ∧
      ("\n  " ≠ "" ∧ ∀ c ∈ "\n  ".toList, isBlank c = true) ∧
      (entries (first ++ "\n" ++ "\n  " ++ second) "ma").map Item.pair =
        [("map\tvalue ('a -> 'b) -> 'a list \t Stdlib.max max value 'a -> 'a", "map")] := by
  refine ⟨_, _, rfl, rfl, ?_⟩
  have hfirst : EndsOnItsLine
      "loading\nList.map map value ('a -> 'b) ->\n\n    'a list \t".toList := by decide +kernel
  have hsecond : startsBlank "Stdlib.max max value 'a ->\n  'a\n".toList = false := by
    decide +kernel
  have hgap : ∀ c ∈ "\n  ".toList, isBlank c = true := List.all_eq_true.mp (by decide +kernel)
  obtain ⟨happart, hwrap⟩ := lines_are_read_apart_and_wraps_as_spaces "ma" _ _ hfirst hsecond
  refine ⟨⟨hfirst, hsecond⟩, ?_, ⟨by decide, hgap⟩, ?_⟩
  · rw [happart]
    decide +kernel
  · rw [hwrap "\n  " (by decide) hgap]
    decide +kernel

-- A line feed at the end of the first output is white space with the one at the seam.
example : ¬EndsOnItsLine "A.a a value\n".toList ∧
    (entries ("A.a a value\n" ++ "\n" ++ "B.b b value") "").map Item.pair =
      [("a\tvalue B.b b value", "A.a")] := by
  decide +kernel

end OcamlAssist.Listing
