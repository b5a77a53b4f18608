-- What a scan for bound names gives: the names of all binding headers of the
-- text, in ascending order and each once. Headers are listed from left to right
-- and none inside another, but one that begins inside another ends with it, so
-- its names are among the names of the other.
import OcamlAssist.Locals.Scan
import OcamlAssist.Proofs.Locals.Header
import Mathlib.Data.String.Basic

namespace OcamlAssist.Locals

open OcamlAssist.Chars OcamlAssist.Text

/-! ## What is listed -/

theorem mem_insertName {name other : String} {names : List String} :
    other ∈ insertName name names ↔ other = name ∨ other ∈ names := by
  induction names with
  | nil => simp [insertName]
  | cons first rest ih =>
    unfold insertName
    split
    · exact List.mem_cons
    · split
      · rename_i hfirst
        rw [eq_of_beq hfirst, List.mem_cons]
        exact (or_self_left).symm
      · rw [List.mem_cons, ih, List.mem_cons]
        exact or_left_comm

/-- The names of a scan are those of the headers. -/
theorem mem_scan {text name : String} :
    name ∈ scan text ↔ ∃ header ∈ allHeaders text.toList, name ∈ header.bound := by
  unfold scan
  rw [← List.mem_flatMap]
  induction (allHeaders text.toList).flatMap Header.bound with
  | nil => rfl
  | cons first rest ih => rw [List.foldr_cons, mem_insertName, ih, List.mem_cons]

theorem mem_of_mem_withoutMarker {c : Char} {word : List Char} (h : c ∈ withoutMarker word) :
    c ∈ word := by
  cases word with
  | nil => exact h
  | cons first rest =>
    rw [withoutMarker] at h
    split at h
    · exact List.mem_cons_of_mem first h
    · exact h

theorem isBlank_eq_false_of_mem_bound {header : Header} {name : String} (h : name ∈ header.bound)
    {c : Char} (hc : c ∈ name.toList) : isBlank c = false := by
  obtain ⟨hname, -⟩ := List.mem_filter.mp h
  obtain ⟨word, hword, rfl⟩ := List.mem_map.mp hname
  obtain ⟨hpiece, -⟩ := List.mem_filter.mp hword
  rw [String.toList_ofList] at hc
  exact not_separator_of_mem_pieces hpiece (mem_of_mem_withoutMarker hc)

/-- No white space is in a bound name. -/
theorem isBlank_eq_false_of_mem_scan {text name : String} (h : name ∈ scan text) {c : Char}
    (hc : c ∈ name.toList) : isBlank c = false := by
  obtain ⟨header, -, hbound⟩ := mem_scan.mp h
  exact isBlank_eq_false_of_mem_bound hbound hc

/-! ## Headers inside headers -/

/-- Two runs with the same text behind them are the same, if what follows is no run character. -/
theorem run_unique {run run' closing rest rest' : List Char} (hclosing : Closes closing)
    (hrun : ∀ c ∈ run, isRunChar c = true) (hrun' : ∀ c ∈ run', isRunChar c = true)
    (h : run ++ (closing ++ rest) = run' ++ (closing ++ rest')) : run = run' := by
  obtain ⟨c, tail, rfl, hc⟩ := hclosing
  have htake {run rest : List Char} (hrun : ∀ c ∈ run, isRunChar c = true) :
      (run ++ (c :: tail ++ rest)).takeWhile isRunChar = run := by
    rw [List.takeWhile_append_of_pos hrun, List.cons_append,
      List.takeWhile_cons_of_neg (by simp [hc]), List.append_nil]
  rw [← htake hrun, h, htake hrun']

/-- A letter that does not open the closing mark comes in front of the mark, if it comes before the
mark's end. -/
theorem opens_in_front {opening : Char} {before after run closing rest : List Char}
    (h : before ++ opening :: after = run ++ (closing ++ rest)) (hopening : opening ∉ closing)
    (hlength : before.length < run.length + closing.length) :
    ∃ tail, run = before ++ tail ∧ opening :: after = tail ++ (closing ++ rest) := by
  rcases List.append_eq_append_iff.mp h with hfront | ⟨beyond, rfl, hbeyond⟩
  · exact hfront
  · have hlt : beyond.length < closing.length := by
      rw [List.length_append] at hlength
      omega
    have hletter : (closing ++ rest)[beyond.length]? = some opening := by
      rw [hbeyond]
      simp
    rw [List.getElem?_append_left hlt] at hletter
    exact absurd (List.mem_of_getElem? hletter) hopening

/-- A letter that does not come in the first of two texts begins in the second. -/
theorem opens_behind {opening : Char} {before after more names : List Char}
    (h : more ++ names = before ++ opening :: after) (hmore : opening ∉ more) :
    ∃ front, names = front ++ opening :: after := by
  rcases List.append_eq_append_iff.mp h with ⟨front, -, hnames⟩ | ⟨tail, rfl, htail⟩
  · exact ⟨front, hnames⟩
  · cases tail with
    | nil => exact ⟨[], htail.symm⟩
    | cons c tail =>
      rw [(List.cons.inj htail).1] at hmore
      exact absurd (by simp) hmore

/-- A header that begins inside another one ends at the same closing mark, and its group is the
end of the other's, behind white space. -/
theorem group_of_inner {opening : Char} {closing text s : List Char} {outer inner : Header}
    (hclosing : Closes closing) (hopening : opening ∉ closing)
    (houter : outer.LiesIn opening closing text) (hinner : inner.LiesIn opening closing s)
    (hsuffix : s <:+ text) (hne : s ≠ text) (hinside : text.length < s.length + outer.length) :
    ∃ front b, isBlank b = true ∧ outer.names = front ++ b :: inner.names := by
  obtain ⟨lead, rest, hlead, hgroup, rfl, hlength⟩ := houter
  obtain ⟨lead', rest', hlead', hgroup', rfl, -⟩ := hinner
  obtain ⟨more, hmore, hnot⟩ := hlead.opens
  obtain ⟨more', hmore', -⟩ := hlead'.opens
  obtain ⟨last, b, hends, hb⟩ := hlead'.ends
  obtain ⟨before, htext⟩ := hsuffix
  obtain ⟨first, before, rfl⟩ : ∃ first tail, before = first :: tail := by
    refine List.exists_cons_of_ne_nil ?_
    rintro rfl
    exact hne htext
  have hlengths := congrArg List.length htext
  rw [List.length_append, List.length_cons] at hlengths
  -- The inner header begins in front of the closing mark, and so in what leads up to it.
  obtain ⟨tail, hrun, htail⟩ : ∃ tail, lead ++ outer.names = first :: before ++ tail ∧
      lead' ++ (inner.names ++ (closing ++ rest')) = tail ++ (closing ++ rest) := by
    rw [hmore', List.cons_append] at htext ⊢
    rw [← List.append_assoc lead] at htext
    refine opens_in_front htext hopening ?_
    rw [List.length_cons, List.length_append]
    omega
  have hall : ∀ c ∈ tail, isRunChar c = true := by
    intro c hc
    have hmem : c ∈ lead ++ outer.names := hrun ▸ List.mem_append_right _ hc
    rcases List.mem_append.mp hmem with hmem | hmem
    · exact hlead.run c hmem
    · exact isRunChar_of_mem_group hgroup hmem
  have hall' : ∀ c ∈ lead' ++ inner.names, isRunChar c = true := by
    intro c hc
    rcases List.mem_append.mp hc with hmem | hmem
    · exact hlead'.run c hmem
    · exact isRunChar_of_mem_group hgroup' hmem
  rw [← List.append_assoc] at htail
  obtain rfl := run_unique hclosing hall' hall htail
  -- The letter that opens it comes once in what leads up to the outer group.
  rw [hmore, List.cons_append, List.cons_append, List.cons.injEq, hmore', List.cons_append] at hrun
  obtain ⟨front, hfront⟩ := opens_behind hrun.2 hnot
  refine ⟨front ++ last, b, hb, ?_⟩
  rw [hfront, ← List.cons_append, ← hmore', hends]
  simp

/-! ## The headers of a text -/

/-- Headers that begin inside another one bring no words of their own. -/
def Nests (find? : List Char → Option Header) : Prop :=
  ∀ ⦃text s outer inner⦄, find? text = some outer → s <:+ text → find? s = some inner →
    text.length < s.length + outer.length → words inner.names ⊆ words outer.names

theorem nests_of_liesIn {find? : List Char → Option Header} {opening : Char}
    {closing : List Char} (hclosing : Closes closing) (hopening : opening ∉ closing)
    (hlies : ∀ {text header}, find? text = some header → header.LiesIn opening closing text) :
    Nests find? := by
  intro text s outer inner houter hsuffix hinner hinside
  by_cases hsame : s = text
  · rw [hsame, houter] at hinner
    rw [Option.some.inj hinner]
    exact List.Subset.refl _
  · obtain ⟨front, b, hb, hnames⟩ :=
      group_of_inner hclosing hopening (hlies houter) (hlies hinner) hsuffix hsame hinside
    rw [hnames, words_append_blank hb]
    exact List.subset_append_right _ _

theorem nests_letHeader? : Nests letHeader? :=
  nests_of_liesIn closes_equals (by decide) liesIn_of_letHeader?

theorem nests_funHeader? : Nests funHeader? :=
  nests_of_liesIn closes_arrow (by decide) liesIn_of_funHeader?

/-- What is listed is found somewhere in the text. -/
theorem found_of_mem_headers {find? : List Char → Option Header} {skip : Nat} {text : List Char}
    {header : Header} (h : header ∈ headers find? skip text) :
    ∃ s, s <:+ text ∧ find? s = some header := by
  fun_induction headers find? skip text with
  | case1 => cases h
  | case2 skip c rest ih =>
    obtain ⟨s, hsuffix, hfind⟩ := ih h
    exact ⟨s, hsuffix.trans (List.suffix_cons c rest), hfind⟩
  | case3 c rest found hfound ih =>
    rcases List.mem_cons.mp h with rfl | hrest
    · exact ⟨c :: rest, List.suffix_rfl, hfound⟩
    · obtain ⟨s, hsuffix, hfind⟩ := ih hrest
      exact ⟨s, hsuffix.trans (List.suffix_cons c rest), hfind⟩
  | case4 c rest hnone ih =>
    obtain ⟨s, hsuffix, hfind⟩ := ih h
    exact ⟨s, hsuffix.trans (List.suffix_cons c rest), hfind⟩

/-- A header that stands behind the first `skip` characters is listed, or lies inside one that is
listed and has its words. -/
theorem listed_of_found {find? : List Char → Option Header} (hnests : Nests find?)
    (hnil : find? [] = none) {skip : Nat} {text s : List Char} {header : Header}
    (hsuffix : s <:+ text) (hfind : find? s = some header) (hskip : s.length + skip ≤ text.length) :
    ∃ listed ∈ headers find? skip text, words header.names ⊆ words listed.names := by
  fun_induction headers find? skip text with
  | case1 =>
    rw [List.suffix_nil.mp hsuffix, hnil] at hfind
    cases hfind
  | case2 skip c rest ih =>
    rw [List.length_cons] at hskip
    rcases List.suffix_cons_iff.mp hsuffix with rfl | hrest
    · rw [List.length_cons] at hskip
      omega
    · exact ih hrest (by omega)
  | case3 c rest found hfound ih =>
    rcases List.suffix_cons_iff.mp hsuffix with rfl | hrest
    · rw [hfound] at hfind
      obtain rfl := Option.some.inj hfind
      exact ⟨found, List.mem_cons_self, List.Subset.refl _⟩
    · by_cases hinside : s.length + (found.length - 1) ≤ rest.length
      · obtain ⟨listed, hmem, hwords⟩ := ih hrest hinside
        exact ⟨listed, List.mem_cons_of_mem found hmem, hwords⟩
      · -- It begins among the characters that the header before it takes up.
        have hle := hrest.length_le
        refine ⟨found, List.mem_cons_self, hnests hfound hsuffix hfind ?_⟩
        rw [List.length_cons]
        omega
  | case4 c rest hnone ih =>
    rcases List.suffix_cons_iff.mp hsuffix with rfl | hrest
    · rw [hnone] at hfind
      cases hfind
    · exact ih hrest (by simpa using hrest.length_le)

/-! ## The names of a header -/

/-- The name in a word: the word without its first character if that is a marker. -/
def NameIn (word name : List Char) : Prop :=
  (∃ marker, (marker = '?' ∨ marker = '~') ∧ word = marker :: name) ∨
    word = name ∧ ∀ c ∈ word.head?, c ≠ '?' ∧ c ≠ '~'

theorem nameIn_iff {word name : List Char} : NameIn word name ↔ withoutMarker word = name := by
  unfold NameIn
  cases word with
  | nil => simp [withoutMarker]
  | cons c rest =>
    rw [withoutMarker]
    by_cases hc : isMarker c = true
    · have hmarker := isMarker_iff.mp hc
      rw [if_pos hc]
      constructor
      · rintro (⟨marker, -, hword⟩ | ⟨-, hhead⟩)
        · exact (List.cons.inj hword).2
        · obtain ⟨hoptional, hlabel⟩ := hhead c rfl
          exact absurd hmarker (by simp [hoptional, hlabel])
      · rintro rfl
        exact Or.inl ⟨c, hmarker, rfl⟩
    · have hnot : ¬(c = '?' ∨ c = '~') := fun h => hc (isMarker_iff.mpr h)
      rw [if_neg hc]
      constructor
      · rintro (⟨marker, hmarker, hword⟩ | ⟨hword, -⟩)
        · rw [(List.cons.inj hword).1] at hnot
          exact absurd hmarker hnot
        · exact hword
      · rintro rfl
        exact Or.inr ⟨rfl, by simpa [not_or] using hnot⟩

/-- A marker in a group has a name character right behind it. -/
theorem startsWith_of_marker {before after : List Char} {marker : Char}
    (h : nameRun (before ++ marker :: after) = before ++ marker :: after)
    (hmarker : isMarker marker = true) : startsWith isNameChar after = true := by
  obtain ⟨hname, hblank⟩ := not_name_and_blank_of_isMarker hmarker
  induction before with
  | nil =>
    rw [List.nil_append, nameRun, hname, hblank, hmarker] at h
    by_contra hstart
    simp [hstart] at h
  | cons c before ih =>
    rw [List.cons_append, nameRun] at h
    split at h
    · exact ih (List.cons.inj h).2
    · cases h

/-- A marker in a word of a group has a name character of that word right behind it. -/
theorem startsWith_of_marker_in_word {group before after : List Char} {marker : Char}
    (h : IsGroup group) (hword : before ++ marker :: after ∈ words group)
    (hmarker : isMarker marker = true) : startsWith isNameChar after = true := by
  obtain ⟨-, -, front, back, rfl, -, hback⟩ := mem_words_iff.mp hword
  have hrun := nameRun_eq_of_isGroup h
  have htext : front ++ ((before ++ marker :: after) ++ back) =
      (front ++ before) ++ marker :: (after ++ back) := by simp
  rw [htext] at hrun
  have hstart := startsWith_of_marker hrun hmarker
  cases after with
  | cons c after => exact hstart
  | nil =>
    cases back with
    | nil => exact hstart
    | cons d back =>
      have hd : isBlank d = true := hback d rfl
      exact Bool.noConfusion (hd.symm.trans (isBlank_eq_false_of_isNameChar hstart))

/-- No word of a group is a marker alone. -/
theorem withoutMarker_ne_nil {group word : List Char} (h : IsGroup group)
    (hword : word ∈ words group) : withoutMarker word ≠ [] := by
  obtain ⟨c, rest, rfl⟩ := List.exists_cons_of_ne_nil (mem_words_iff.mp hword).1
  rw [withoutMarker]
  split
  · rename_i hc
    rintro rfl
    have hstart := @startsWith_of_marker_in_word group [] [] c h hword hc
    cases hstart
  · exact List.cons_ne_nil c rest

theorem mem_bound_iff {header : Header} (h : IsGroup header.names) {name : String} :
    name ∈ header.bound ↔ ∃ word ∈ words header.names, withoutMarker word = name.toList := by
  unfold Header.bound
  simp only [List.mem_filter, List.mem_map, bne_iff_ne]
  constructor
  · rintro ⟨⟨word, hword, rfl⟩, -⟩
    exact ⟨word, hword, by simp⟩
  · rintro ⟨word, hword, hname⟩
    refine ⟨⟨word, hword, by simp [hname]⟩, ?_⟩
    rintro rfl
    exact withoutMarker_ne_nil h hword hname

/-! ## The law -/

/-- A binding header stands at the front of a text. -/
def HeaderAt (group text : List Char) : Prop := LetHeaderAt group text ∨ FunHeaderAt group text

theorem HeaderAt.isGroup {group text : List Char} (h : HeaderAt group text) : IsGroup group := by
  rcases h with ⟨body, -, ⟨names, -, hgroup⟩ | ⟨hgroup, -⟩⟩ | ⟨body, -, hgroup⟩
  · exact hgroup.1
  · exact hgroup.1
  · exact hgroup.1

theorem headerAt_of_mem_allHeaders {text : List Char} {header : Header}
    (h : header ∈ allHeaders text) : ∃ s, s <:+ text ∧ HeaderAt header.names s := by
  rcases List.mem_append.mp h with hlet | hfun
  · obtain ⟨s, hsuffix, hfind⟩ := found_of_mem_headers hlet
    exact ⟨s, hsuffix, Or.inl (exists_letHeader?_iff.mp ⟨header, hfind, rfl⟩)⟩
  · obtain ⟨s, hsuffix, hfind⟩ := found_of_mem_headers hfun
    exact ⟨s, hsuffix, Or.inr (exists_funHeader?_iff.mp ⟨header, hfind, rfl⟩)⟩

/-- Every header of a text is listed, or lies inside a listed one that has all its words. -/
theorem exists_listed_of_headerAt {text s group : List Char} (hsuffix : s <:+ text)
    (h : HeaderAt group s) : ∃ header ∈ allHeaders text, words group ⊆ words header.names := by
  have hskip : s.length + 0 ≤ text.length := hsuffix.length_le
  rcases h with hlet | hfun
  · obtain ⟨header, hfind, rfl⟩ := exists_letHeader?_iff.mpr hlet
    obtain ⟨listed, hmem, hwords⟩ := listed_of_found nests_letHeader? rfl hsuffix hfind hskip
    exact ⟨listed, List.mem_append_left _ hmem, hwords⟩
  · obtain ⟨header, hfind, rfl⟩ := exists_funHeader?_iff.mpr hfun
    obtain ⟨listed, hmem, hwords⟩ := listed_of_found nests_funHeader? rfl hsuffix hfind hskip
    exact ⟨listed, List.mem_append_right _ hmem, hwords⟩

theorem mem_scan_iff {text name : String} :
    name ∈ scan text ↔ ∃ s group, s <:+ text.toList ∧ HeaderAt group s ∧
      ∃ word ∈ words group, withoutMarker word = name.toList := by
  rw [mem_scan]
  constructor
  · rintro ⟨header, hlisted, hbound⟩
    obtain ⟨s, hsuffix, hheader⟩ := headerAt_of_mem_allHeaders hlisted
    exact ⟨s, header.names, hsuffix, hheader, (mem_bound_iff hheader.isGroup).mp hbound⟩
  · rintro ⟨s, group, hsuffix, hheader, word, hword, hname⟩
    obtain ⟨header, hlisted, hwords⟩ := exists_listed_of_headerAt hsuffix hheader
    obtain ⟨s', -, hheader'⟩ := headerAt_of_mem_allHeaders hlisted
    exact ⟨header, hlisted, (mem_bound_iff hheader'.isGroup).mpr ⟨word, hwords hword, hname⟩⟩

theorem ascending_insertName {name : String} {names : List String}
    (h : names.Pairwise (· < ·)) : (insertName name names).Pairwise (· < ·) := by
  induction names with
  | nil => simp [insertName]
  | cons first rest ih =>
    obtain ⟨hfirst, hrest⟩ := List.pairwise_cons.mp h
    rw [insertName]
    by_cases hlt : name < first
    · rw [if_pos hlt, List.pairwise_cons]
      refine ⟨fun other hother => ?_, h⟩
      rcases List.mem_cons.mp hother with rfl | hother
      · exact hlt
      · exact hlt.trans (hfirst other hother)
    · rw [if_neg hlt]
      by_cases heq : name = first
      · rwa [if_pos (by simpa using heq)]
      · rw [if_neg (by simpa using heq), List.pairwise_cons]
        refine ⟨fun other hother => ?_, ih hrest⟩
        rcases mem_insertName.mp hother with rfl | hother
        · exact lt_of_le_of_ne (not_lt.mp hlt) (Ne.symm heq)
        · exact hfirst other hother

theorem ascending_scan (text : String) : (scan text).Pairwise (· < ·) := by
  unfold scan
  induction (allHeaders text.toList).flatMap Header.bound with
  | nil => exact List.Pairwise.nil
  | cons first rest ih => exact ascending_insertName ih

/-- The names of a scan are those in the words of all headers of the text, wherever a header
stands and whatever stands around it: a header that lies inside another one, and is passed over
with it, brings no name that the other one does not bring. Each name is given once, in the order
of code points. -/
theorem the_scan_gives_the_names_of_all_headers (text : String) :
    (∀ name, name ∈ scan text ↔ ∃ s group word, s <:+ text.toList ∧
      (LetHeaderAt group s ∨ FunHeaderAt group s) ∧ IsWordOf word group ∧
        NameIn word name.toList) ∧
    (scan text).Pairwise (· < ·) := by
  refine ⟨fun name => ?_, ascending_scan text⟩
  rw [mem_scan_iff]
  constructor
  · rintro ⟨s, group, hsuffix, hheader, word, hword, hname⟩
    exact ⟨s, group, word, hsuffix, hheader, mem_words_iff.mp hword, nameIn_iff.mpr hname⟩
  · rintro ⟨s, group, word, hsuffix, hheader, hword, hname⟩
    exact ⟨s, group, hsuffix, hheader, word, mem_words_iff.mpr hword, nameIn_iff.mp hname⟩

-- The second header begins inside the first one and is not listed.
example : (allHeaders "let f let rec ~x =".toList).length = 1 ∧
    scan "let f let rec ~x =" = ["f", "let", "rec", "x"] := by
  decide +kernel

end OcamlAssist.Locals
