-- How the names of a text lie to those of its parts. What a header binds is
-- decided by the characters from its first letter to its closing mark, so text
-- around it takes no name away, and a character that no header holds keeps the
-- names on its two sides apart.
import OcamlAssist.Proofs.Locals.Scan
import Mathlib.Data.Finset.Sort

namespace OcamlAssist.Locals

open OcamlAssist.Chars OcamlAssist.Text

/-! ## Headers with more text behind them -/

theorem Opens.append {word body text : List Char} (h : Opens word body text)
    (more : List Char) : Opens word (body ++ more) (text ++ more) := by
  obtain ⟨gap, hne, hgap, rfl⟩ := h
  exact ⟨gap, hne, hgap, by simp⟩

theorem GroupAt.append {closing group text : List Char} (h : GroupAt closing group text)
    (more : List Char) : GroupAt closing group (text ++ more) :=
  ⟨h.1, h.2.trans (List.prefix_append text more)⟩

/-- A keyword with a group behind it is there without what comes after the closing mark. -/
theorem keyword_of_append {body more names group other : List Char}
    (hgroup : GroupAt ['='] group body) (hrec : Opens ['r', 'e', 'c'] names (body ++ more))
    (hother : GroupAt ['='] other names) :
    ∃ names, Opens ['r', 'e', 'c'] names body ∧ GroupAt ['='] other names := by
  obtain ⟨hisGroup, rest, rfl⟩ := hgroup
  obtain ⟨gap, hne, hgap, hbody⟩ := hrec
  obtain ⟨hisOther, rest', rfl⟩ := hother
  have hgroup_run : ∀ c ∈ group, isRunChar c = true := fun c => isRunChar_of_mem_group hisGroup
  have hkeyword_run : ∀ c ∈ ['r', 'e', 'c'] ++ (gap ++ other), isRunChar c = true := by
    rw [List.forall_mem_append, List.forall_mem_append]
    exact ⟨isRunChar_of_mem_keyword (by simp), fun c hc => isRunChar_of_isBlank (hgap c hc),
      fun c => isRunChar_of_mem_group hisOther⟩
  -- Both runs end at the first equals sign.
  have hsame : group = ['r', 'e', 'c'] ++ (gap ++ other) := by
    apply run_unique closes_equals hgroup_run hkeyword_run
    simpa using hbody
  exact ⟨other ++ (['='] ++ rest), ⟨gap, hne, hgap, by simp [hsame]⟩, hisOther, rest, by simp⟩

theorem LetHeaderAt.append {group text : List Char} (h : LetHeaderAt group text)
    (more : List Char) : LetHeaderAt group (text ++ more) := by
  obtain ⟨body, hopens, ⟨names, hrec, hgroup⟩ | ⟨hgroup, hnot⟩⟩ := h
  · exact ⟨body ++ more, hopens.append more,
      Or.inl ⟨names ++ more, hrec.append more, hgroup.append more⟩⟩
  · refine ⟨body ++ more, hopens.append more, Or.inr ⟨hgroup.append more, ?_⟩⟩
    rintro ⟨names, other, hrec, hother⟩
    obtain ⟨names, hrec, hother⟩ := keyword_of_append hgroup hrec hother
    exact hnot ⟨names, other, hrec, hother⟩

theorem HeaderAt.append {group text : List Char} (h : HeaderAt group text) (more : List Char) :
    HeaderAt group (text ++ more) := by
  rcases h with hlet | ⟨body, hopens, hgroup⟩
  · exact Or.inl (hlet.append more)
  · exact Or.inr ⟨body ++ more, hopens.append more, hgroup.append more⟩

/-! ## Headers with nothing behind them -/

/-- Characters of a header: those of its words and names, and of its closing mark. -/
def IsHeaderChar (c : Char) : Prop := isRunChar c = true ∨ c = '=' ∨ c = '-' ∨ c = '>'

/-- A header that ends with its closing mark. -/
structure IsHeader (group span : List Char) : Prop where
  header : HeaderAt group span
  chars : ∀ c ∈ span, IsHeaderChar c

/-- A group with a closing mark is there without what comes after the mark. -/
theorem GroupAt.cut {closing group text : List Char} (h : GroupAt closing group text)
    (hclosing : closing ⊆ ['=', '-', '>']) :
    ∃ front rest, text = front ++ rest ∧ GroupAt closing group front ∧
      ∀ c ∈ front, IsHeaderChar c := by
  obtain ⟨hgroup, rest, rfl⟩ := h
  refine ⟨group ++ closing, rest, rfl, ⟨hgroup, List.prefix_rfl⟩, ?_⟩
  rw [List.forall_mem_append]
  exact ⟨fun c hc => Or.inl (isRunChar_of_mem_group hgroup hc),
    fun c hc => Or.inr (by simpa using hclosing hc)⟩

/-- What is behind a keyword can be cut where the text can. -/
theorem Opens.cut {word front rest text : List Char} (h : Opens word (front ++ rest) text)
    (hword : word ∈ [['l', 'e', 't'], ['r', 'e', 'c'], ['f', 'u', 'n']])
    (hfront : ∀ c ∈ front, IsHeaderChar c) :
    ∃ span, text = span ++ rest ∧ Opens word front span ∧ ∀ c ∈ span, IsHeaderChar c := by
  obtain ⟨gap, hne, hgap, rfl⟩ := h
  refine ⟨word ++ (gap ++ front), by simp, ⟨gap, hne, hgap, rfl⟩, ?_⟩
  rw [List.forall_mem_append, List.forall_mem_append]
  exact ⟨fun c hc => Or.inl (isRunChar_of_mem_keyword hword c hc),
    fun c hc => Or.inl (isRunChar_of_isBlank (hgap c hc)), hfront⟩

/-- Every header is one with nothing behind it, and then more text. -/
theorem HeaderAt.exists_isHeader {group text : List Char} (h : HeaderAt group text) :
    ∃ span, span <+: text ∧ IsHeader group span := by
  rcases h with ⟨body, hopens, ⟨names, hrec, hgroup⟩ | ⟨hgroup, hnot⟩⟩ | ⟨body, hopens, hgroup⟩
  · obtain ⟨front, rest, rfl, hgroup', hfront⟩ := hgroup.cut (by simp)
    obtain ⟨middle, rfl, hrec', hmiddle⟩ := hrec.cut (by simp) hfront
    obtain ⟨span, rfl, hopens', hspan⟩ := hopens.cut (by simp) hmiddle
    exact ⟨span, List.prefix_append span rest,
      Or.inl ⟨middle, hopens', Or.inl ⟨front, hrec', hgroup'⟩⟩, hspan⟩
  · obtain ⟨front, rest, rfl, hgroup', hfront⟩ := hgroup.cut (by simp)
    obtain ⟨span, rfl, hopens', hspan⟩ := hopens.cut (by simp) hfront
    refine ⟨span, List.prefix_append span rest,
      Or.inl ⟨front, hopens', Or.inr ⟨hgroup', ?_⟩⟩, hspan⟩
    rintro ⟨names, other, hrec, hother⟩
    exact hnot ⟨names ++ rest, other, hrec.append rest, hother.append rest⟩
  · obtain ⟨front, rest, rfl, hgroup', hfront⟩ := hgroup.cut (by simp)
    obtain ⟨span, rfl, hopens', hspan⟩ := hopens.cut (by simp) hfront
    exact ⟨span, List.prefix_append span rest, Or.inr ⟨front, hopens', hgroup'⟩, hspan⟩

/-! ## The names of a text -/

/-- The names of a text are those of the headers that stand anywhere in it, each up to its closing
mark. What is around them has no part in it. -/
theorem mem_scan_iff_span {text name : String} :
    name ∈ scan text ↔ ∃ span group, span <:+: text.toList ∧ IsHeader group span ∧
      ∃ word ∈ words group, withoutMarker word = name.toList := by
  rw [mem_scan_iff]
  constructor
  · rintro ⟨s, group, hsuffix, hheader, hname⟩
    obtain ⟨span, hprefix, hspan⟩ := hheader.exists_isHeader
    exact ⟨span, group, hprefix.isInfix.trans hsuffix.isInfix, hspan, hname⟩
  · rintro ⟨span, group, ⟨before, after, htext⟩, hspan, hname⟩
    refine ⟨span ++ after, group, ⟨before, ?_⟩, hspan.header.append after, hname⟩
    rw [← htext, List.append_assoc]

/-- A name of a part of a text is a name of the text. -/
theorem mem_scan_of_isInfix {part text name : String} (h : part.toList <:+: text.toList)
    (hname : name ∈ scan part) : name ∈ scan text := by
  obtain ⟨span, group, hspan, hheader, hword⟩ := mem_scan_iff_span.mp hname
  exact mem_scan_iff_span.mpr ⟨span, group, hspan.trans h, hheader, hword⟩

/-- A character that no header holds: it is not in an identifier, not white space, and none of the
marks of a header. -/
def Divides (c : Char) : Prop :=
  isIdent c = false ∧ isBlank c = false ∧ c ∉ ['\'', '?', '~', '=', '-', '>']

instance (c : Char) : Decidable (Divides c) := inferInstanceAs (Decidable (_ ∧ _ ∧ _))

theorem Divides.not_isHeaderChar {c : Char} (h : Divides c) : ¬IsHeaderChar c := by
  obtain ⟨hident, hblank, hmarks⟩ := h
  simp only [List.mem_cons, List.not_mem_nil, or_false, not_or] at hmarks
  obtain ⟨htick, hoptional, hlabel, hequals, hminus, harrow⟩ := hmarks
  simp [IsHeaderChar, isRunChar, isNameChar, isTick, isMarker, *]

/-- A character that no header holds keeps the headers on its two sides apart. -/
theorem mem_scan_divided_iff {u v name : String} {c : Char} (hc : Divides c) :
    name ∈ scan (u ++ String.singleton c ++ v) ↔ name ∈ scan u ∨ name ∈ scan v := by
  have htext : (u ++ String.singleton c ++ v).toList = u.toList ++ c :: v.toList := by simp
  simp only [mem_scan_iff_span, htext, ← exists_or, ← or_and_right]
  refine exists_congr fun span => exists_congr fun group => and_congr_left fun hspan => ?_
  have hnot : c ∉ span := fun hmem => hc.not_isHeaderChar (hspan.1.chars c hmem)
  exact isInfix_append_separator_iff hnot u.toList v.toList

/-! ## The law -/

/-- The names of a text stay names whatever text is put in front of it or behind it. With a
character between two texts that no header holds, there are no names but theirs. -/
theorem text_around_hides_no_name (u v : String) :
    (∀ name, name ∈ scan u ∨ name ∈ scan v → name ∈ scan (u ++ v)) ∧
    ∀ c, Divides c →
      scan (u ++ String.singleton c ++ v) = ((scan u).toFinset ∪ (scan v).toFinset).sort := by
  constructor
  · have htext : (u ++ v).toList = u.toList ++ v.toList := by simp
    rintro name (hname | hname)
    · exact mem_scan_of_isInfix (htext ▸ (List.prefix_append _ _).isInfix) hname
    · exact mem_scan_of_isInfix (htext ▸ (List.suffix_append _ _).isInfix) hname
  · intro c hc
    have hsame : ((scan u).toFinset ∪ (scan v).toFinset) =
        (scan (u ++ String.singleton c ++ v)).toFinset := by
      ext name
      rw [Finset.mem_union, List.mem_toFinset, List.mem_toFinset, List.mem_toFinset,
        mem_scan_divided_iff hc]
    have hascending := ascending_scan (u ++ String.singleton c ++ v)
    rw [hsame, (List.toFinset_sort (· ≤ ·) (hascending.imp ne_of_lt)).mpr (hascending.imp le_of_lt)]

theorem a_parenthesis_divides_a_function :
    (scan "let f x = fun " = ["f", "x"] ∧ scan "y -> let g z = y" = ["g", "z"]) ∧
      (∀ name ∈ ["f", "x", "g", "z"], name ∈ scan ("let f x = fun " ++ "y -> let g z = y")) ∧
      "y" ∈ scan ("let f x = fun " ++ "y -> let g z = y") ∧
      Divides '(' ∧
      scan ("let f x = fun " ++ String.singleton '(' ++ "y -> let g z = y") =
        ["f", "g", "x", "z"] := by
  have hfirst : scan "let f x = fun " = ["f", "x"] := by decide +kernel
  have hsecond : scan "y -> let g z = y" = ["g", "z"] := by decide +kernel
  have hdivides : Divides '(' := by decide +kernel
  obtain ⟨hnames, hdivided⟩ := text_around_hides_no_name "let f x = fun " "y -> let g z = y"
  rw [hfirst, hsecond] at hnames
  refine ⟨⟨hfirst, hsecond⟩, fun name hname => hnames name ?_, by decide +kernel, hdivides, ?_⟩
  · simpa [or_assoc] using hname
  · have hunion : ["f", "x"].toFinset ∪ ["g", "z"].toFinset = ["f", "g", "x", "z"].toFinset := by
      decide +kernel
    rw [hdivided '(' hdivides, hfirst, hsecond, hunion,
      (List.toFinset_sort (· ≤ ·) (by decide)).mpr (by decide)]

end OcamlAssist.Locals
