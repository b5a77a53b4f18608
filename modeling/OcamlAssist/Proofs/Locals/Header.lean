-- What a binding header is, said by its shape: words that open it, a group of
-- names, and a closing mark. A header is found at the front of a text exactly
-- if one stands there.
import OcamlAssist.Locals.Header
import OcamlAssist.Proofs.Chars.Class
import OcamlAssist.Proofs.Text.Split

namespace OcamlAssist.Locals

open OcamlAssist.Chars OcamlAssist.Text

/-! ## The shape of a header -/

/-- A bound name with no marker: identifier characters and quote marks, and any white space. -/
def IsPlainItem (text : List Char) : Prop :=
  ∃ name gap, text = name ++ gap ∧ name ≠ [] ∧
    (∀ c ∈ name, isIdent c = true ∨ c = '\'') ∧ ∀ c ∈ gap, isBlank c = true

/-- A bound name that may have one marker in front. -/
def IsItem (text : List Char) : Prop :=
  IsPlainItem text ∨ ∃ marker item, text = marker :: item ∧ (marker = '?' ∨ marker = '~') ∧
    IsPlainItem item

/-- One or more bound names, one right behind the other. -/
inductive IsGroup : List Char → Prop
  | one {item : List Char} (h : IsItem item) : IsGroup item
  | more {item rest : List Char} (h : IsItem item) (hrest : IsGroup rest) : IsGroup (item ++ rest)

/-- A text begins with a group and with a closing mark right behind it. -/
def GroupAt (closing group text : List Char) : Prop := IsGroup group ∧ group ++ closing <+: text

/-- A text begins with a word and one or more white space characters, and `body` follows. -/
def Opens (word body text : List Char) : Prop :=
  ∃ gap, gap ≠ [] ∧ (∀ c ∈ gap, isBlank c = true) ∧ text = word ++ (gap ++ body)

/-- A `let` header stands at the front of a text. The word `rec` is its keyword wherever a group
and an equals sign follow, and belongs to the group elsewhere. -/
def LetHeaderAt (group text : List Char) : Prop :=
  ∃ body, Opens ['l', 'e', 't'] body text ∧
    ((∃ names, Opens ['r', 'e', 'c'] names body ∧ GroupAt ['='] group names) ∨
      GroupAt ['='] group body ∧
        ¬∃ names other, Opens ['r', 'e', 'c'] names body ∧ GroupAt ['='] other names)

/-- A `fun` header stands at the front of a text. -/
def FunHeaderAt (group text : List Char) : Prop :=
  ∃ body, Opens ['f', 'u', 'n'] body text ∧ GroupAt ['-', '>'] group body

/-! ## Characters of a header -/

theorem isNameChar_iff {c : Char} : isNameChar c = true ↔ isIdent c = true ∨ c = '\'' := by
  simp [isNameChar, isTick]

theorem isMarker_iff {c : Char} : isMarker c = true ↔ c = '?' ∨ c = '~' := by
  simp [isMarker]

theorem isBlank_eq_false_of_isNameChar {c : Char} (h : isNameChar c = true) :
    isBlank c = false := by
  rcases isNameChar_iff.mp h with hident | rfl
  · by_contra hblank
    have hnot := isIdent_eq_false_of_isBlank (Bool.not_eq_false _ ▸ hblank)
    exact Bool.noConfusion (hident.symm.trans hnot)
  · decide +kernel

theorem not_name_and_blank_of_isMarker {c : Char} (h : isMarker c = true) :
    isNameChar c = false ∧ isBlank c = false := by
  rcases isMarker_iff.mp h with rfl | rfl <;> decide +kernel

/-- Characters that a header holds in front of its closing mark. -/
def isRunChar (c : Char) : Bool := isNameChar c || isBlank c || isMarker c

theorem isRunChar_of_isBlank {c : Char} (h : isBlank c = true) : isRunChar c = true := by
  simp [isRunChar, h]

theorem isRunChar_of_mem_keyword {word : List Char}
    (hword : word ∈ [['l', 'e', 't'], ['r', 'e', 'c'], ['f', 'u', 'n']]) :
    ∀ c ∈ word, isRunChar c = true := by
  have hall : ∀ word ∈ [['l', 'e', 't'], ['r', 'e', 'c'], ['f', 'u', 'n']],
      word.all isRunChar = true := by decide +kernel
  exact List.all_eq_true.mp (hall word hword)

/-! ## The run of names -/

theorem prefix_nameRun (text : List Char) : nameRun text <+: text := by
  induction text with
  | nil => exact List.prefix_rfl
  | cons c rest ih =>
    rw [nameRun]
    split
    · exact (List.prefix_cons_inj c).mpr ih
    · exact List.nil_prefix

theorem isRunChar_of_mem_nameRun {c : Char} {text : List Char} (h : c ∈ nameRun text) :
    isRunChar c = true := by
  induction text with
  | nil => cases h
  | cons first rest ih =>
    rw [nameRun] at h
    split at h
    · rename_i hfirst
      rcases List.mem_cons.mp h with rfl | hrest
      · rw [isRunChar]
        simp only [Bool.or_eq_true, Bool.and_eq_true] at hfirst ⊢
        tauto
      · exact ih hrest
    · cases h

theorem nameRun_append {front : List Char}
    (h : ∀ c ∈ front, isNameChar c = true ∨ isBlank c = true) (rest : List Char) :
    nameRun (front ++ rest) = front ++ nameRun rest := by
  induction front with
  | nil => rfl
  | cons c front ih =>
    have hc : isNameChar c = true ∨ isBlank c = true := h c List.mem_cons_self
    have hrest := ih fun x hx => h x (List.mem_cons_of_mem c hx)
    rw [List.cons_append, nameRun, hrest]
    rcases hc with hname | hblank
    · simp [hname]
    · simp [hblank]

theorem nameRun_plainItem {item : List Char} (h : IsPlainItem item) (rest : List Char) :
    nameRun (item ++ rest) = item ++ nameRun rest := by
  obtain ⟨name, gap, rfl, -, hname, hgap⟩ := h
  apply nameRun_append
  intro c hc
  rcases List.mem_append.mp hc with hc | hc
  · exact Or.inl (isNameChar_iff.mpr (hname c hc))
  · exact Or.inr (hgap c hc)

theorem startsWith_plainItem {item : List Char} (h : IsPlainItem item) (rest : List Char) :
    startsWith isNameChar (item ++ rest) = true := by
  obtain ⟨name, gap, rfl, hne, hname, -⟩ := h
  obtain ⟨c, name, rfl⟩ := List.exists_cons_of_ne_nil hne
  exact isNameChar_iff.mpr (hname c List.mem_cons_self)

theorem nameRun_item {item : List Char} (h : IsItem item) (rest : List Char) :
    nameRun (item ++ rest) = item ++ nameRun rest := by
  rcases h with hplain | ⟨marker, item, rfl, hmarker, hplain⟩
  · exact nameRun_plainItem hplain rest
  · have hm : isMarker marker = true := isMarker_iff.mpr hmarker
    rw [List.cons_append, nameRun, startsWith_plainItem hplain rest, hm,
      nameRun_plainItem hplain rest]
    simp

/-- A group is passed over as a whole. -/
theorem nameRun_group {group : List Char} (h : IsGroup group) (rest : List Char) :
    nameRun (group ++ rest) = group ++ nameRun rest := by
  induction h with
  | one h => exact nameRun_item h rest
  | more h hrest ih => rw [List.append_assoc, nameRun_item h, ih, List.append_assoc]

theorem nameRun_eq_of_isGroup {group : List Char} (h : IsGroup group) : nameRun group = group := by
  have hrun := nameRun_group h []
  rwa [nameRun, List.append_nil] at hrun

theorem isRunChar_of_mem_group {c : Char} {group : List Char} (h : IsGroup group)
    (hc : c ∈ group) : isRunChar c = true :=
  isRunChar_of_mem_nameRun ((nameRun_eq_of_isGroup h).symm ▸ hc)

/-! ## A run of names is a group -/

/-- A name in front of nothing or of a group makes a group. -/
theorem IsItem.group {item rest : List Char} (h : IsItem item) (hrest : rest = [] ∨ IsGroup rest) :
    IsGroup (item ++ rest) := by
  rcases hrest with rfl | hgroup
  · rw [List.append_nil]
    exact .one h
  · exact .more h hgroup

theorem IsItem.mark {item rest : List Char} {marker : Char} (h : IsItem item)
    (hmarker : isMarker marker = true) (hstart : startsWith isNameChar (item ++ rest) = true) :
    IsItem (marker :: item) := by
  rcases h with hplain | ⟨own, item, rfl, hown, hplain⟩
  · exact Or.inr ⟨marker, item, rfl, isMarker_iff.mp hmarker, hplain⟩
  · -- The name has a marker already, so no name character is at its front.
    have hname : isNameChar own = true := hstart
    rw [(not_name_and_blank_of_isMarker (isMarker_iff.mpr hown)).1] at hname
    exact Bool.noConfusion hname

theorem IsGroup.mark {group : List Char} {marker : Char} (h : IsGroup group)
    (hmarker : isMarker marker = true) (hstart : startsWith isNameChar group = true) :
    IsGroup (marker :: group) := by
  cases h with
  | one h =>
    refine .one (@IsItem.mark _ [] _ h hmarker ?_)
    rwa [List.append_nil]
  | more h hrest => exact .more (h.mark hmarker hstart) hrest

/-- A run of names is white space and then a group, if there is more. -/
theorem nameRun_parts (text : List Char) :
    ∃ gap rest, nameRun text = gap ++ rest ∧ (∀ c ∈ gap, isBlank c = true) ∧
      (rest = [] ∨ IsGroup rest) := by
  induction text with
  | nil => exact ⟨[], [], rfl, by simp, Or.inl rfl⟩
  | cons c text ih =>
    obtain ⟨gap, rest, hrun, hgap, hrest⟩ := ih
    rw [nameRun]
    by_cases hname : isNameChar c = true
    · have hitem : IsItem ([c] ++ gap) := by
        refine Or.inl ⟨[c], gap, rfl, by simp, ?_, hgap⟩
        simpa using isNameChar_iff.mp hname
      refine ⟨[], ([c] ++ gap) ++ rest, ?_, by simp, Or.inr (hitem.group hrest)⟩
      simp [hname, hrun]
    by_cases hblank : isBlank c = true
    · refine ⟨c :: gap, rest, by simp [hblank, hrun], ?_, hrest⟩
      simpa using ⟨hblank, hgap⟩
    by_cases hmarker : (isMarker c && startsWith isNameChar text) = true
    · obtain ⟨hm, hstart⟩ := Bool.and_eq_true_iff.mp hmarker
      -- The run goes on with a name character, so no white space is in front of the group.
      obtain ⟨d, text, rfl⟩ : ∃ d tail, text = d :: tail := by
        cases text with
        | nil => cases hstart
        | cons d tail => exact ⟨d, tail, rfl⟩
      have hd : isNameChar d = true := hstart
      have hhead : (gap ++ rest).head? = some d := by
        rw [← hrun, nameRun, hd]
        rfl
      obtain rfl : gap = [] := by
        cases gap with
        | nil => rfl
        | cons b gap =>
          obtain rfl : b = d := by simpa using hhead
          have hnot := isBlank_eq_false_of_isNameChar hd
          rw [hgap b List.mem_cons_self] at hnot
          exact Bool.noConfusion hnot
      have hgroup : IsGroup rest := by
        refine hrest.resolve_left ?_
        rintro rfl
        cases hhead
      refine ⟨[], c :: rest, by simp [hmarker, hrun], by simp, Or.inr (hgroup.mark hm ?_)⟩
      obtain ⟨tail, rfl⟩ := List.head?_eq_some_iff.mp hhead
      exact hd
    · exact ⟨[], [], by simp [hname, hblank, hmarker], by simp, Or.inl rfl⟩

theorem startsWith_group {group : List Char} (h : IsGroup group) (rest : List Char) :
    startsWith (fun c => isNameChar c || isMarker c) (group ++ rest) = true := by
  have hitem {item : List Char} (h : IsItem item) (rest : List Char) :
      startsWith (fun c => isNameChar c || isMarker c) (item ++ rest) = true := by
    rcases h with hplain | ⟨marker, item, rfl, hmarker, -⟩
    · have hstart := startsWith_plainItem hplain rest
      cases htext : item ++ rest with
      | nil =>
        rw [htext] at hstart
        cases hstart
      | cons c tail =>
        rw [htext] at hstart
        have hc : isNameChar c = true := hstart
        simp [startsWith, hc]
    · simp [startsWith, isMarker_iff.mpr hmarker]
  cases h with
  | one h => exact hitem h rest
  | more h hrest =>
    rw [List.append_assoc]
    exact hitem h _

/-- A group begins with no white space. -/
theorem startsWith_isBlank_group {group : List Char} (h : IsGroup group) (rest : List Char) :
    startsWith isBlank (group ++ rest) = false := by
  have hstart := startsWith_group h rest
  cases htext : group ++ rest with
  | nil => rfl
  | cons c tail =>
    rw [htext] at hstart
    rcases Bool.or_eq_true_iff.mp hstart with hname | hmarker
    · exact isBlank_eq_false_of_isNameChar hname
    · exact (not_name_and_blank_of_isMarker hmarker).2

theorem GroupAt.startsWith_isBlank {closing group text : List Char}
    (h : GroupAt closing group text) : startsWith isBlank text = false := by
  obtain ⟨hgroup, rest, rfl⟩ := h
  rw [List.append_assoc]
  exact startsWith_isBlank_group hgroup _

/-! ## Finding a group -/

/-- A closing mark begins with a character that no header holds in front of it. -/
def Closes (closing : List Char) : Prop := ∃ c rest, closing = c :: rest ∧ isRunChar c = false

theorem closes_equals : Closes ['='] := ⟨'=', [], rfl, by decide +kernel⟩

theorem closes_arrow : Closes ['-', '>'] := ⟨'-', ['>'], rfl, by decide +kernel⟩

theorem nameRun_closing {closing : List Char} (h : Closes closing) (rest : List Char) :
    nameRun (closing ++ rest) = [] := by
  obtain ⟨c, tail, rfl, hc⟩ := h
  simp only [isRunChar, Bool.or_eq_false_iff] at hc
  simp [nameRun, hc]

/-- A group with the closing mark behind it is found exactly if it is there. -/
theorem namesBefore?_eq_some_iff {closing text group : List Char} (hclosing : Closes closing) :
    namesBefore? closing text = some group ↔ GroupAt closing group text := by
  unfold namesBefore? GroupAt
  simp only [Option.ite_none_right_eq_some, Bool.and_eq_true, Option.some.injEq]
  constructor
  · rintro ⟨⟨hstart, hafter⟩, rfl⟩
    obtain ⟨gap, rest, hrun, hgap, hrest⟩ := nameRun_parts text
    have hgroup : IsGroup (nameRun text) := by
      rw [hrun] at hstart ⊢
      cases gap with
      | cons b gap =>
        have hb : isBlank b = true := hgap b List.mem_cons_self
        rcases Bool.or_eq_true_iff.mp hstart with hname | hmarker
        · exact Bool.noConfusion (hb.symm.trans (isBlank_eq_false_of_isNameChar hname))
        · exact Bool.noConfusion (hb.symm.trans (not_name_and_blank_of_isMarker hmarker).2)
      | nil =>
        refine hrest.resolve_left ?_
        rintro rfl
        cases hstart
    have hprefix := prefix_nameRun text
    generalize nameRun text = run at hprefix hafter hgroup
    obtain ⟨tail, rfl⟩ := hprefix
    rw [List.drop_left] at hafter
    have hclosing' : closing <+: tail := List.isPrefixOf_iff_prefix.mp hafter
    exact ⟨hgroup, (List.prefix_append_right_inj run).mpr hclosing'⟩
  · rintro ⟨hgroup, rest, rfl⟩
    rw [List.append_assoc, nameRun_group hgroup, nameRun_closing hclosing, List.append_nil,
      List.drop_left]
    refine ⟨⟨?_, List.isPrefixOf_iff_prefix.mpr (List.prefix_append closing rest)⟩, rfl⟩
    simpa using startsWith_group hgroup []

/-! ## Finding a header -/

theorem afterBlanks?_eq_some_iff {text body : List Char} :
    afterBlanks? text = some body ↔
      (∃ gap, gap ≠ [] ∧ (∀ c ∈ gap, isBlank c = true) ∧ text = gap ++ body) ∧
        startsWith isBlank body = false := by
  unfold afterBlanks?
  rw [Option.ite_none_right_eq_some, Option.some.injEq]
  constructor
  · rintro ⟨hstart, rfl⟩
    refine ⟨⟨text.takeWhile isBlank, ?_, List.all_eq_true.mp List.all_takeWhile, ?_⟩, ?_⟩
    · cases text with
      | nil => cases hstart
      | cons c text =>
        have hc : isBlank c = true := hstart
        simp [hc]
    · exact List.takeWhile_append_dropWhile.symm
    · cases hrest : text.dropWhile isBlank with
      | nil => rfl
      | cons c rest =>
        have hhead := List.head?_dropWhile_not isBlank text
        rw [hrest] at hhead
        simpa [startsWith] using hhead
  · rintro ⟨⟨gap, hne, hgap, rfl⟩, hbody⟩
    obtain ⟨b, gap, rfl⟩ := List.exists_cons_of_ne_nil hne
    refine ⟨hgap b List.mem_cons_self, ?_⟩
    rw [List.dropWhile_append_of_pos hgap]
    cases body with
    | nil => rfl
    | cons c body =>
      have hc : isBlank c = false := hbody
      simp [hc]

/-- The text behind a word and white space is found where it begins with no white space. -/
theorem afterWord?_eq_some_iff {word text body : List Char} :
    (after? word text).bind afterBlanks? = some body ↔
      Opens word body text ∧ startsWith isBlank body = false := by
  simp only [Option.bind_eq_some_iff, after?_eq_some_iff, afterBlanks?_eq_some_iff, Opens]
  constructor
  · rintro ⟨rest, rfl, ⟨gap, hne, hgap, rfl⟩, hbody⟩
    exact ⟨⟨gap, hne, hgap, rfl⟩, hbody⟩
  · rintro ⟨⟨gap, hne, hgap, rfl⟩, hbody⟩
    exact ⟨gap ++ body, rfl, ⟨gap, hne, hgap, rfl⟩, hbody⟩

/-- The header with a group that stands in a text at `names`, up to its closing mark. -/
def Header.spanning (text closing names group : List Char) : Header :=
  ⟨group, text.length - names.length + group.length + closing.length⟩

theorem from?_eq_some_iff {text closing names : List Char} (hclosing : Closes closing)
    {header : Header} :
    Header.from? text closing names = some header ↔
      ∃ group, GroupAt closing group names ∧ header = .spanning text closing names group := by
  unfold Header.from?
  rw [Option.map_eq_some_iff]
  constructor
  · rintro ⟨group, hfound, rfl⟩
    exact ⟨group, (namesBefore?_eq_some_iff hclosing).mp hfound, rfl⟩
  · rintro ⟨group, hgroup, rfl⟩
    exact ⟨group, (namesBefore?_eq_some_iff hclosing).mpr hgroup, rfl⟩

/-- Behind a word and white space, a group with a closing mark is found exactly if it is there. -/
theorem from?_afterWord?_eq_some_iff {word text whole closing : List Char}
    (hclosing : Closes closing) {header : Header} :
    ((after? word text).bind afterBlanks?).bind (Header.from? whole closing) = some header ↔
      ∃ names group, Opens word names text ∧ GroupAt closing group names ∧
        header = .spanning whole closing names group := by
  rw [Option.bind_eq_some_iff]
  constructor
  · rintro ⟨names, hnames, hfound⟩
    obtain ⟨group, hgroup, rfl⟩ := (from?_eq_some_iff hclosing).mp hfound
    exact ⟨names, group, (afterWord?_eq_some_iff.mp hnames).1, hgroup, rfl⟩
  · rintro ⟨names, group, hopens, hgroup, rfl⟩
    have hnames := afterWord?_eq_some_iff.mpr ⟨hopens, hgroup.startsWith_isBlank⟩
    exact ⟨names, hnames, (from?_eq_some_iff hclosing).mpr ⟨group, hgroup, rfl⟩⟩

theorem funHeader?_eq_some_iff {text : List Char} {header : Header} :
    funHeader? text = some header ↔
      ∃ names group, Opens ['f', 'u', 'n'] names text ∧ GroupAt ['-', '>'] group names ∧
        header = .spanning text ['-', '>'] names group :=
  from?_afterWord?_eq_some_iff closes_arrow

theorem letHeader?_eq_some_iff {text : List Char} {header : Header} :
    letHeader? text = some header ↔
      ∃ body, Opens ['l', 'e', 't'] body text ∧
        ((∃ names group, Opens ['r', 'e', 'c'] names body ∧ GroupAt ['='] group names ∧
            header = .spanning text ['='] names group) ∨
          (∃ group, GroupAt ['='] group body ∧ header = .spanning text ['='] body group) ∧
            ¬∃ names other, Opens ['r', 'e', 'c'] names body ∧ GroupAt ['='] other names) := by
  have hunfold : letHeader? text =
      ((after? ['l', 'e', 't'] text).bind afterBlanks?).bind fun body =>
        (((after? ['r', 'e', 'c'] body).bind afterBlanks?).bind (Header.from? text ['='])).or
          (Header.from? text ['='] body) := rfl
  have hkeyword (body : List Char) :
      ((after? ['r', 'e', 'c'] body).bind afterBlanks?).bind (Header.from? text ['=']) = none ↔
        ¬∃ names other, Opens ['r', 'e', 'c'] names body ∧ GroupAt ['='] other names := by
    rw [Option.eq_none_iff_forall_ne_some]
    constructor
    · rintro hnone ⟨names, other, hopens, hgroup⟩
      exact hnone _ ((from?_afterWord?_eq_some_iff closes_equals).mpr
        ⟨names, other, hopens, hgroup, rfl⟩)
    · rintro hnot header hsome
      obtain ⟨names, other, hopens, hgroup, -⟩ :=
        (from?_afterWord?_eq_some_iff closes_equals).mp hsome
      exact hnot ⟨names, other, hopens, hgroup⟩
  rw [hunfold, Option.bind_eq_some_iff]
  constructor
  · rintro ⟨body, hbody, hfound⟩
    refine ⟨body, (afterWord?_eq_some_iff.mp hbody).1, ?_⟩
    rcases Option.or_eq_some_iff.mp hfound with hrecursive | ⟨hnone, hplain⟩
    · exact Or.inl ((from?_afterWord?_eq_some_iff closes_equals).mp hrecursive)
    · exact Or.inr ⟨(from?_eq_some_iff closes_equals).mp hplain, (hkeyword body).mp hnone⟩
  · rintro ⟨body, hopens, hheader⟩
    have hstart : startsWith isBlank body = false := by
      rcases hheader with ⟨names, group, ⟨gap, -, -, rfl⟩, -⟩ | ⟨⟨group, hgroup, -⟩, -⟩
      · have hletter : isBlank 'r' = false := by decide +kernel
        exact hletter
      · exact hgroup.startsWith_isBlank
    refine ⟨body, afterWord?_eq_some_iff.mpr ⟨hopens, hstart⟩, Option.or_eq_some_iff.mpr ?_⟩
    rcases hheader with hrecursive | ⟨hplain, hnot⟩
    · exact Or.inl ((from?_afterWord?_eq_some_iff closes_equals).mpr hrecursive)
    · exact Or.inr ⟨(hkeyword body).mpr hnot, (from?_eq_some_iff closes_equals).mpr hplain⟩

/-- A `let` header is found exactly if one is there. -/
theorem exists_letHeader?_iff {text group : List Char} :
    (∃ header, letHeader? text = some header ∧ header.names = group) ↔
      LetHeaderAt group text := by
  simp only [letHeader?_eq_some_iff]
  constructor
  · rintro ⟨header, ⟨body, hopens, hheader⟩, rfl⟩
    refine ⟨body, hopens, ?_⟩
    rcases hheader with ⟨names, group, hrec, hgroup, rfl⟩ | ⟨⟨group, hgroup, rfl⟩, hnot⟩
    · exact Or.inl ⟨names, hrec, hgroup⟩
    · exact Or.inr ⟨hgroup, hnot⟩
  · rintro ⟨body, hopens, ⟨names, hrec, hgroup⟩ | ⟨hgroup, hnot⟩⟩
    · exact ⟨.spanning text ['='] names group,
        ⟨body, hopens, Or.inl ⟨names, group, hrec, hgroup, rfl⟩⟩, rfl⟩
    · exact ⟨.spanning text ['='] body group,
        ⟨body, hopens, Or.inr ⟨⟨group, hgroup, rfl⟩, hnot⟩⟩, rfl⟩

/-- A `fun` header is found exactly if one is there. -/
theorem exists_funHeader?_iff {text group : List Char} :
    (∃ header, funHeader? text = some header ∧ header.names = group) ↔
      FunHeaderAt group text := by
  simp only [funHeader?_eq_some_iff]
  constructor
  · rintro ⟨header, ⟨names, group, hopens, hgroup, rfl⟩, rfl⟩
    exact ⟨names, hopens, hgroup⟩
  · rintro ⟨names, hopens, hgroup⟩
    exact ⟨.spanning text ['-', '>'] names group, ⟨names, group, hopens, hgroup, rfl⟩, rfl⟩

/-! ## Where a header lies -/

/-- What stands in front of a group: it begins with a letter that does not come again, and ends
with white space. -/
structure Leads (opening : Char) (lead : List Char) : Prop where
  opens : ∃ more, lead = opening :: more ∧ opening ∉ more
  run : ∀ c ∈ lead, isRunChar c = true
  ends : ∃ front b, lead = front ++ [b] ∧ isBlank b = true

/-- A header takes up the characters in front of its group, the group, and its closing mark. -/
def Header.LiesIn (opening : Char) (closing text : List Char) (header : Header) : Prop :=
  ∃ lead rest, Leads opening lead ∧ IsGroup header.names ∧
    text = lead ++ (header.names ++ (closing ++ rest)) ∧
    header.length = lead.length + header.names.length + closing.length

theorem leads_append_gap {opening : Char} {word gap : List Char}
    (hblank : isBlank opening = false) (hword : opening ∉ word)
    (hrun : ∀ c ∈ opening :: word, isRunChar c = true) (hne : gap ≠ [])
    (hgap : ∀ c ∈ gap, isBlank c = true) : Leads opening (opening :: (word ++ gap)) := by
  refine ⟨⟨word ++ gap, rfl, ?_⟩, ?_, ?_⟩
  · intro hmem
    rcases List.mem_append.mp hmem with hmem | hmem
    · exact hword hmem
    · exact Bool.noConfusion (hblank.symm.trans (hgap opening hmem))
  · intro c hc
    rw [← List.cons_append, List.mem_append] at hc
    rcases hc with hc | hc
    · exact hrun c hc
    · exact isRunChar_of_isBlank (hgap c hc)
  · obtain ⟨front, b, rfl⟩ := List.eq_nil_or_concat' gap |>.resolve_left hne
    exact ⟨opening :: (word ++ front), b, by simp, hgap b (by simp)⟩

theorem liesIn_spanning {opening : Char} {closing lead names group : List Char}
    (hlead : Leads opening lead) (hgroup : GroupAt closing group names) :
    (Header.spanning (lead ++ names) closing names group).LiesIn opening closing
      (lead ++ names) := by
  obtain ⟨hisGroup, rest, rfl⟩ := hgroup
  refine ⟨lead, rest, hlead, hisGroup, by simp [Header.spanning], ?_⟩
  simp [Header.spanning]

theorem liesIn_of_funHeader? {text : List Char} {header : Header}
    (h : funHeader? text = some header) : header.LiesIn 'f' ['-', '>'] text := by
  obtain ⟨names, group, ⟨gap, hne, hgap, rfl⟩, hgroup, rfl⟩ := funHeader?_eq_some_iff.mp h
  have hlead : Leads 'f' ('f' :: (['u', 'n'] ++ gap)) :=
    leads_append_gap (by decide +kernel) (by decide) (isRunChar_of_mem_keyword (by simp)) hne hgap
  simpa using liesIn_spanning hlead hgroup

theorem liesIn_of_letHeader? {text : List Char} {header : Header}
    (h : letHeader? text = some header) : header.LiesIn 'l' ['='] text := by
  obtain ⟨body, ⟨gap, hne, hgap, rfl⟩, hheader⟩ := letHeader?_eq_some_iff.mp h
  have hblank : isBlank 'l' = false := by decide +kernel
  rcases hheader with
    ⟨names, group, ⟨gap', hne', hgap', rfl⟩, hgroup, rfl⟩ | ⟨⟨group, hgroup, rfl⟩, -⟩
  · -- The white space between the two words belongs to what leads up to the group.
    have hlead : Leads 'l' ('l' :: ((['e', 't'] ++ (gap ++ ['r', 'e', 'c'])) ++ gap')) := by
      refine leads_append_gap hblank ?_ ?_ hne' hgap'
      · have hgap_l : 'l' ∉ gap := fun hmem => Bool.noConfusion (hblank.symm.trans (hgap _ hmem))
        simp [hgap_l]
      · have hlet : ∀ c ∈ ['l', 'e', 't'], isRunChar c = true := isRunChar_of_mem_keyword (by simp)
        have hrec : ∀ c ∈ ['r', 'e', 'c'], isRunChar c = true := isRunChar_of_mem_keyword (by simp)
        rw [← List.cons_append, List.forall_mem_append, List.forall_mem_append]
        exact ⟨hlet, fun c hc => isRunChar_of_isBlank (hgap c hc), hrec⟩
    simpa using liesIn_spanning hlead hgroup
  · have hlead : Leads 'l' ('l' :: (['e', 't'] ++ gap)) :=
      leads_append_gap hblank (by decide) (isRunChar_of_mem_keyword (by simp)) hne hgap
    simpa using liesIn_spanning hlead hgroup

end OcamlAssist.Locals
