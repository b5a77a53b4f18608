-- The law of what a bound name looks like: it is an identifier, or several that
-- were written with nothing but a marker in between. Words are cut at white
-- space and lose the marker in front, so a marker inside a word stays.
import OcamlAssist.Proofs.Locals.Scan

namespace OcamlAssist.Locals

open OcamlAssist.Chars OcamlAssist.Text

/-! ## Shapes of names -/

/-- A name as it should be: one or more identifier characters and quote marks. -/
def IsPlainName (name : List Char) : Prop :=
  name ≠ [] ∧ ∀ c ∈ name, isIdent c = true ∨ c = '\''

/-- Names with a marker between neighbours. -/
inductive IsChain : List Char → Prop
  | one {name : List Char} (h : IsPlainName name) : IsChain name
  | more {name rest : List Char} {marker : Char} (h : IsPlainName name)
      (hmarker : marker = '?' ∨ marker = '~') (hrest : IsChain rest) :
      IsChain (name ++ marker :: rest)

/-- Every marker of a group is at its front or behind white space. -/
def Spaced (group : List Char) : Prop :=
  ∀ c marker, [c, marker] <:+: group → (marker = '?' ∨ marker = '~') → isBlank c = true

theorem IsPlainName.cons {c : Char} {name : List Char} (hc : isNameChar c = true)
    (h : IsPlainName name) : IsPlainName (c :: name) :=
  ⟨List.cons_ne_nil c name, List.forall_mem_cons.mpr ⟨isNameChar_iff.mp hc, h.2⟩⟩

theorem isPlainName_singleton {c : Char} (hc : isNameChar c = true) : IsPlainName [c] :=
  ⟨List.cons_ne_nil c [], List.forall_mem_singleton.mpr (isNameChar_iff.mp hc)⟩

theorem IsChain.cons {c : Char} {text : List Char} (hc : isNameChar c = true)
    (h : IsChain text) : IsChain (c :: text) := by
  cases h with
  | one h => exact .one (h.cons hc)
  | more h hmarker hrest => exact .more (h.cons hc) hmarker hrest

theorem IsChain.ne_nil {text : List Char} (h : IsChain text) : text ≠ [] := by
  cases h with
  | one h => exact h.1
  | more h hmarker hrest => simp

/-! ## Words of a group -/

theorem isMarker_eq_false_of_isNameChar {c : Char} (h : isNameChar c = true) :
    isMarker c = false := by
  by_contra hmarker
  have hnot := (not_name_and_blank_of_isMarker (Bool.not_eq_false _ ▸ hmarker)).1
  exact Bool.noConfusion (h.symm.trans hnot)

theorem withoutMarker_of_startsWith {word : List Char} (h : startsWith isNameChar word = true) :
    withoutMarker word = word := by
  cases word with
  | nil => rfl
  | cons c rest =>
    have hc : isMarker c = false := isMarker_eq_false_of_isNameChar h
    simp [withoutMarker, hc]

/-- Only the first character of a word can be a marker that goes. -/
theorem mem_withoutMarker_iff {marker c : Char} {rest : List Char}
    (hmarker : isMarker marker = true) : marker ∈ withoutMarker (c :: rest) ↔ marker ∈ rest := by
  rw [withoutMarker]
  split
  · rfl
  · rename_i hc
    rw [List.mem_cons, or_iff_right]
    rintro rfl
    exact hc hmarker

theorem isNameChar_or_isMarker_of_mem_word {group word : List Char} (h : IsGroup group)
    (hword : word ∈ words group) {c : Char} (hc : c ∈ word) :
    isNameChar c = true ∨ isMarker c = true := by
  obtain ⟨-, hclean, before, after, rfl, -⟩ := mem_words_iff.mp hword
  have hrun := isRunChar_of_mem_group h (List.mem_append_right before (List.mem_append_left _ hc))
  simpa [isRunChar, hclean c hc] using hrun

/-- A text of name characters and markers, with a name character right behind each marker, is a
chain of names, and may have one more marker in front. -/
theorem isChain_withoutMarker {text : List Char} (hne : text ≠ [])
    (hchars : ∀ c ∈ text, isNameChar c = true ∨ isMarker c = true)
    (hmarked : ∀ before marker after, text = before ++ marker :: after →
      isMarker marker = true → startsWith isNameChar after = true) :
    IsChain (withoutMarker text) := by
  induction text with
  | nil => exact absurd rfl hne
  | cons c rest ih =>
    have hrest : rest ≠ [] → IsChain (withoutMarker rest) := by
      intro hne
      refine ih hne (fun x hx => hchars x (List.mem_cons_of_mem c hx)) ?_
      rintro before marker after rfl
      exact hmarked (c :: before) marker after rfl
    rcases hchars c List.mem_cons_self with hc | hc
    · rw [withoutMarker, if_neg (by simp [isMarker_eq_false_of_isNameChar hc])]
      cases rest with
      | nil => exact .one (isPlainName_singleton hc)
      | cons d rest =>
        have hchain := hrest (List.cons_ne_nil d rest)
        by_cases hd : isMarker d = true
        · rw [withoutMarker, if_pos hd] at hchain
          exact .more (isPlainName_singleton hc) (isMarker_iff.mp hd) hchain
        · rw [withoutMarker, if_neg hd] at hchain
          exact hchain.cons hc
    · have hstart := hmarked [] c rest rfl hc
      rw [withoutMarker, if_pos hc, ← withoutMarker_of_startsWith hstart]
      refine hrest ?_
      rintro rfl
      cases hstart

theorem isChain_of_mem_words {group word : List Char} (h : IsGroup group)
    (hword : word ∈ words group) : IsChain (withoutMarker word) := by
  refine isChain_withoutMarker (mem_words_iff.mp hword).1
    (fun c hc => isNameChar_or_isMarker_of_mem_word h hword hc) ?_
  rintro before marker after rfl hmarker
  exact startsWith_of_marker_in_word h hword hmarker

/-- The words of a group lose all their markers exactly if each marker begins a word. -/
theorem spaced_iff {group : List Char} :
    Spaced group ↔ ∀ word ∈ words group, ∀ c ∈ withoutMarker word, isMarker c = false := by
  constructor
  · intro h word hword c hc
    by_contra hmarker
    rw [Bool.not_eq_false] at hmarker
    obtain ⟨hne, hclean, front, back, rfl, -⟩ := mem_words_iff.mp hword
    obtain ⟨x, rest, rfl⟩ := List.exists_cons_of_ne_nil hne
    obtain ⟨before, after, rfl⟩ := List.append_of_mem ((mem_withoutMarker_iff hmarker).mp hc)
    -- What is in front of the marker is in the word, so it is no white space.
    obtain ⟨start, y, hstart⟩ :=
      (List.eq_nil_or_concat' (x :: before)).resolve_left (List.cons_ne_nil x before)
    have hword_eq : x :: (before ++ c :: after) = start ++ [y, c] ++ after := by
      rw [← List.cons_append, hstart]
      simp
    rw [hword_eq] at h hclean
    have hy := h y c ⟨front ++ start, after ++ back, by simp⟩ (isMarker_iff.mp hmarker)
    exact Bool.noConfusion (hy.symm.trans (hclean y (by simp)))
  · intro h c marker hpart hmarker
    by_contra hblank
    rw [Bool.not_eq_true] at hblank
    have hmarker' := isMarker_iff.mpr hmarker
    have hclean : ∀ x ∈ [c, marker], isBlank x = false := by
      simp [hblank, (not_name_and_blank_of_isMarker hmarker').2]
    obtain ⟨word, hpiece, front, back, rfl⟩ := exists_piece_of_isInfix hclean hpart
    have hword : front ++ [c, marker] ++ back ∈ words group :=
      List.mem_filter.mpr ⟨hpiece, by simp⟩
    have hstays : marker ∈ withoutMarker (front ++ [c, marker] ++ back) := by
      cases front with
      | nil => exact (mem_withoutMarker_iff hmarker').mpr (by simp)
      | cons x front => exact (mem_withoutMarker_iff hmarker').mpr (by simp)
    exact Bool.noConfusion (hmarker'.symm.trans (h _ hword marker hstays))

/-! ## The law -/

/-- Every name of a text is an identifier, or identifiers with one marker between neighbours. They
are all identifiers exactly if in every header each marker is at the front of the group or behind
white space. -/
theorem names_are_identifiers_unless_parameters_touch (text : String) :
    (∀ name ∈ scan text, IsChain name.toList) ∧
    ((∀ name ∈ scan text, IsPlainName name.toList) ↔
      ∀ s group, s <:+ text.toList → LetHeaderAt group s ∨ FunHeaderAt group s → Spaced group) := by
  have hchain : ∀ name ∈ scan text, IsChain name.toList := by
    intro name hname
    obtain ⟨s, group, -, hheader, word, hword, hsame⟩ := mem_scan_iff.mp hname
    rw [← hsame]
    exact isChain_of_mem_words hheader.isGroup hword
  refine ⟨hchain, fun hplain s group hsuffix hheader => ?_, fun hspaced name hname => ?_⟩
  · refine spaced_iff.mpr fun word hword c hc => ?_
    have hname : String.ofList (withoutMarker word) ∈ scan text :=
      mem_scan_iff.mpr ⟨s, group, hsuffix, hheader, word, hword, by simp⟩
    have hchars := (hplain _ hname).2 c (by simpa using hc)
    exact isMarker_eq_false_of_isNameChar (isNameChar_iff.mpr hchars)
  · refine ⟨(hchain name hname).ne_nil, fun c hc => ?_⟩
    obtain ⟨s, group, hsuffix, hheader, word, hword, hsame⟩ := mem_scan_iff.mp hname
    rw [← hsame] at hc
    have hmarker := spaced_iff.mp (hspaced s group hsuffix hheader) word hword c hc
    have hmem := mem_of_mem_withoutMarker hc
    rcases isNameChar_or_isMarker_of_mem_word hheader.isGroup hword hmem with hname | hnot
    · exact isNameChar_iff.mp hname
    · exact Bool.noConfusion (hnot.symm.trans hmarker)

/-- Parameters that are written with no white space between them are offered as one. -/
theorem parameters_that_touch_are_one_name :
    scan "let f~x?y=1" = ["f~x?y"] ∧ ¬∀ name ∈ scan "let f~x?y=1", IsPlainName name.toList := by
  have hscan : scan "let f~x?y=1" = ["f~x?y"] := by decide +kernel
  refine ⟨hscan, fun h => ?_⟩
  rw [hscan] at h
  have hlabel : ¬(isIdent '~' = true ∨ '~' = '\'') := by decide +kernel
  exact hlabel ((h "f~x?y" (by simp)).2 '~' (by simp))

end OcamlAssist.Locals
