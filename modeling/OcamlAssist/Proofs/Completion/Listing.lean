-- The laws of the listing: whatever the index tool wrote as a list of
-- candidates, with types broken over several lines and with remarks between the
-- candidates, is read back as one entry for each candidate, in their order.
import OcamlAssist.Completion.Listing
import OcamlAssist.Proofs.Text.Split

namespace OcamlAssist.Listing

open OcamlAssist.Chars OcamlAssist.Text

/-! ## What the tool writes -/

/-- A piece of a type that stands on a line of its own, with the white space in front of it. -/
structure Wrapped where
  gap : List Char
  text : List Char
  gap_ne_nil : gap ≠ []
  gap_isBlank : ∀ c ∈ gap, isBlank c = true
  text_ne_nil : text ≠ []
  text_startsBlank : startsBlank text = false
  text_one_line : '\n' ∉ text

/-- A candidate: its qualified name, its name, and its kind with its type. The kind and the type
begin on the line of the names and may go on over further lines. -/
structure Candidate where
  qualified : List Char
  display : List Char
  first : List Char
  wrapped : List Wrapped
  qualified_ne_nil : qualified ≠ []
  qualified_no_space : ' ' ∉ qualified
  qualified_one_line : '\n' ∉ qualified
  qualified_startsBlank : startsBlank qualified = false
  display_no_space : ' ' ∉ display
  display_one_line : '\n' ∉ display
  display_no_tab : '\t' ∉ display
  first_one_line : '\n' ∉ first

/-- A line that names no candidate, for want of a second space. -/
structure Remark where
  text : List Char
  text_ne_nil : text ≠ []
  text_startsBlank : startsBlank text = false
  text_one_line : '\n' ∉ text
  text_spaces : text.count ' ' < 2

/-- One thing that the tool lists. -/
inductive Listed where
  | candidate (c : Candidate)
  | remark (r : Remark)

/-- A piece as it is written: below the piece before it. -/
def Wrapped.written (w : Wrapped) : List Char := '\n' :: (w.gap ++ w.text)

/-- The kind and the type of a candidate, on one line. -/
def Candidate.body (c : Candidate) : List Char := join [' '] (c.first :: c.wrapped.map (·.text))

/-- A candidate with the given kind and type behind its names. -/
def Candidate.lineOf (c : Candidate) (rest : List Char) : List Char :=
  c.qualified ++ ' ' :: (c.display ++ ' ' :: rest)

def Listed.written : Listed → List Char
  | .candidate c => c.lineOf (c.first ++ c.wrapped.flatMap Wrapped.written)
  | .remark r => r.text

/-- The tool's output for what it lists. -/
def output (listed : List Listed) : String :=
  String.ofList (join ['\n'] (listed.map Listed.written))

def Listed.candidate? : Listed → Option Candidate
  | .candidate c => some c
  | .remark _ => none

/-- What is put into the text for a qualified name: it from the first place on where what is typed
occurs in it, or all of it where what is typed does not occur. -/
def Inserts (typed qualified insertText : List Char) : Prop :=
  (insertText <:+ qualified ∧ typed <+: insertText ∧
      ∀ s, s <:+ qualified → typed <+: s → s <:+ insertText) ∨
    (¬ typed <:+: qualified ∧ insertText = qualified)

/-- What the entry of a candidate says. -/
structure Describes (typed : String) (c : Candidate) (item : Item) : Prop where
  name : item.name = String.ofList c.display
  annotation : item.annotation =
    some (if "module sig".toList <+: c.body then "module sig .. end"
      else String.ofList (trim c.body))
  kind : item.kind =
    ItemKind.ofWord (String.ofList ((trimStart c.body).takeWhile fun x => !isBlank x))
  inserts : Inserts typed.toList c.qualified item.insertText.toList
  source : item.source = .indexer

/-! ## Putting wrapped lines together -/

theorem startsBlank_append {text : List Char} (h : text ≠ []) (rest : List Char) :
    startsBlank (text ++ rest) = startsBlank text := by
  cases text with
  | nil => exact absurd rfl h
  | cons c text => rfl

/-- Text without a line feed stays as it is. -/
theorem unwrap_append {text : List Char} (h : '\n' ∉ text) (rest : List Char) :
    unwrap false (text ++ rest) = text ++ unwrap false rest := by
  induction text with
  | nil => rfl
  | cons c text ih =>
    rw [List.mem_cons, not_or] at h
    have hc : (c == '\n') = false := by simpa using Ne.symm h.1
    rw [List.cons_append, unwrap, hc, ih h.2]
    rfl

theorem unwrap_gap {gap rest : List Char} (hgap : ∀ c ∈ gap, isBlank c = true)
    (hrest : startsBlank rest = false) : unwrap true (gap ++ rest) = unwrap false rest := by
  induction gap with
  | nil =>
    cases rest with
    | nil => rfl
    | cons c rest =>
      have hc : isBlank c = false := hrest
      rw [List.nil_append, unwrap, unwrap, hc]
      rfl
  | cons c gap ih =>
    have hc : isBlank c = true := hgap c List.mem_cons_self
    rw [List.cons_append, unwrap, hc, ← ih fun x hx => hgap x (List.mem_cons_of_mem c hx)]
    rfl

/-- A line feed with white space after it becomes a space. -/
theorem unwrap_wrap {gap rest : List Char} (hne : gap ≠ []) (hgap : ∀ c ∈ gap, isBlank c = true)
    (hrest : startsBlank rest = false) :
    unwrap false ('\n' :: (gap ++ rest)) = ' ' :: unwrap false rest := by
  have hstart : startsBlank (gap ++ rest) = true := by
    obtain ⟨b, gap, rfl⟩ := List.exists_cons_of_ne_nil hne
    exact hgap b List.mem_cons_self
  rw [unwrap, hstart, unwrap_gap hgap hrest]
  rfl

theorem unwrap_wrapped (w : Wrapped) (rest : List Char) :
    unwrap false (w.written ++ rest) = ' ' :: (w.text ++ unwrap false rest) := by
  have hstart : startsBlank (w.text ++ rest) = false := by
    rw [startsBlank_append w.text_ne_nil, w.text_startsBlank]
  have hcons : w.written ++ rest = '\n' :: (w.gap ++ (w.text ++ rest)) := by
    simp [Wrapped.written]
  rw [hcons, unwrap_wrap w.gap_ne_nil w.gap_isBlank hstart, unwrap_append w.text_one_line]

theorem unwrap_flatMap_wrapped (ws : List Wrapped) (rest : List Char) :
    unwrap false (ws.flatMap Wrapped.written ++ rest) =
      ws.flatMap (fun w => ' ' :: w.text) ++ unwrap false rest := by
  induction ws with
  | nil => rfl
  | cons w ws ih =>
    rw [List.flatMap_cons, List.flatMap_cons, List.append_assoc, unwrap_wrapped, ih,
      List.append_assoc, List.cons_append]

/-- A line feed with anything else after it stays. -/
theorem unwrap_line_feed {rest : List Char} (h : startsBlank rest = false) :
    unwrap false ('\n' :: rest) = '\n' :: unwrap false rest := by
  rw [unwrap, h]
  rfl

/-! ## Lines put together -/

theorem Candidate.body_eq (c : Candidate) :
    c.body = c.first ++ c.wrapped.flatMap fun w => ' ' :: w.text := by
  have hjoin (ws : List Wrapped) (piece : List Char) :
      join [' '] (piece :: ws.map (·.text)) = piece ++ ws.flatMap fun w => ' ' :: w.text := by
    induction ws generalizing piece with
    | nil => simp [join]
    | cons w ws ih => simp [join, ih]
  exact hjoin c.wrapped c.first

/-- What is listed, on one line. -/
def Listed.line : Listed → List Char
  | .candidate c => c.lineOf c.body
  | .remark r => r.text

theorem Listed.line_one_line (l : Listed) : '\n' ∉ l.line := by
  cases l with
  | candidate c =>
    have hwrapped : '\n' ∉ c.wrapped.flatMap fun w => ' ' :: w.text := by
      rw [List.mem_flatMap]
      rintro ⟨w, -, hw⟩
      rw [List.mem_cons] at hw
      rcases hw with hw | hw
      · exact absurd hw (by decide)
      · exact w.text_one_line hw
    simp [Listed.line, Candidate.lineOf, c.body_eq, c.qualified_one_line, c.display_one_line,
      c.first_one_line, hwrapped]
  | remark r => exact r.text_one_line

theorem unwrap_listed (l : Listed) (rest : List Char) :
    unwrap false (l.written ++ rest) = l.line ++ unwrap false rest := by
  cases l with
  | candidate c =>
    have hnames : '\n' ∉ c.lineOf c.first := by
      simp [Candidate.lineOf, c.qualified_one_line, c.display_one_line, c.first_one_line]
    have hwritten : (Listed.candidate c).written ++ rest =
        c.lineOf c.first ++ (c.wrapped.flatMap Wrapped.written ++ rest) := by
      simp [Listed.written, Candidate.lineOf]
    rw [hwritten, unwrap_append hnames, unwrap_flatMap_wrapped]
    simp [Listed.line, Candidate.lineOf, c.body_eq]
  | remark r => exact unwrap_append r.text_one_line rest

/-- What is listed begins with no white space, so it does not go on with the line before it. -/
theorem Listed.startsBlank_written (l : Listed) (rest : List Char) :
    startsBlank (l.written ++ rest) = false := by
  cases l with
  | candidate c =>
    rw [Listed.written, Candidate.lineOf, List.append_assoc, startsBlank_append c.qualified_ne_nil,
      c.qualified_startsBlank]
  | remark r => rw [Listed.written, startsBlank_append r.text_ne_nil, r.text_startsBlank]

/-- Putting wrapped lines together leaves one line for each thing that is listed. -/
theorem unwrap_output (listed : List Listed) :
    unwrap false (output listed).toList = join ['\n'] (listed.map Listed.line) := by
  rw [output, String.toList_ofList]
  induction listed with
  | nil => rfl
  | cons l rest ih =>
    cases rest with
    | nil =>
      have hline := unwrap_listed l []
      rw [List.append_nil] at hline
      rw [List.map_singleton, List.map_singleton, join, join, hline]
      exact List.append_nil l.line
    | cons next rest =>
      have hstart : startsBlank (join ['\n'] ((next :: rest).map Listed.written)) = false := by
        obtain ⟨tail, htail⟩ := prefix_join ['\n'] next.written (rest.map Listed.written)
        rw [List.map_cons, ← htail, next.startsBlank_written]
      rw [List.map_cons, List.map_cons, join_cons_cons, unwrap_listed, List.singleton_append,
        ← List.map_cons, unwrap_line_feed hstart, ih]
      simp only [List.map_cons, join_cons_cons, List.singleton_append]

/-! ## The entry of a line -/

theorem inserts_insertion (typed qualified : List Char) :
    Inserts typed qualified (insertion typed qualified) := by
  unfold insertion
  cases hfirst : fromFirst? typed qualified with
  | none => exact Or.inr ⟨fromFirst?_eq_none_iff.mp hfirst, rfl⟩
  | some found => exact Or.inl (fromFirst?_eq_some_iff.mp hfirst)

theorem annotation_eq (rest : List Char) :
    annotation rest =
      if "module sig".toList <+: rest then "module sig .. end".toList else trim rest := by
  unfold annotation signaturePlaceholder
  by_cases h : "module sig".toList <+: rest
  · rw [if_pos h, if_pos (List.isPrefixOf_iff_prefix.mpr h)]
  · rw [if_neg h, if_neg fun h' => h (List.isPrefixOf_iff_prefix.mp h')]

theorem name_of_label {display rest : List Char} (h : '\t' ∉ display) {item : Item}
    (hlabel : item.label = String.ofList (display ++ '\t' :: rest)) :
    item.name = String.ofList display := by
  have hpos : ∀ c ∈ display, (c != '\t') = true := by
    intro c hc
    rw [bne_iff_ne]
    rintro rfl
    exact h hc
  rw [Item.name, hlabel, String.toList_ofList, List.takeWhile_append_of_pos hpos]
  simp

theorem annotation_of_label {display rest : List Char} (h : '\t' ∉ display) {item : Item}
    (hlabel : item.label = String.ofList (display ++ '\t' :: rest)) :
    item.annotation = some (String.ofList rest) := by
  rw [Item.annotation, hlabel, String.toList_ofList, cutAt_append h]
  rfl

/-- The line of a candidate has an entry, and the entry says what the candidate is. -/
theorem itemOf?_candidate (typed : String) (c : Candidate) :
    ∃ item, itemOf? typed.toList (Listed.candidate c).line = some item ∧
      Describes typed c item := by
  have hitem : itemOf? typed.toList (Listed.candidate c).line = some
      { label := String.ofList (c.display ++ '\t' :: annotation c.body)
        insertText := String.ofList (insertion typed.toList c.qualified)
        kind := ItemKind.ofWord (String.ofList ((words c.body).headD []))
        source := .indexer } := by
    simp [itemOf?, Listed.line, Candidate.lineOf, cutAt_append c.qualified_no_space,
      cutAt_append c.display_no_space]
  refine ⟨_, hitem, name_of_label c.display_no_tab rfl, ?_, ?_, ?_, rfl⟩
  · rw [annotation_of_label c.display_no_tab rfl, annotation_eq, apply_ite String.ofList,
      String.ofList_toList]
  · rw [words_headD]
  · rw [String.toList_ofList]
    exact inserts_insertion typed.toList c.qualified

/-- A line without a second space has no entry. -/
theorem itemOf?_remark (typed : List Char) (r : Remark) :
    itemOf? typed (Listed.remark r).line = none := by
  rw [Listed.line]
  cases hcut : cutAt ' ' r.text with
  | none => simp [itemOf?, hcut]
  | some parts =>
    cases hcut' : cutAt ' ' parts.2 with
    | none => simp [itemOf?, hcut, hcut']
    | some parts' =>
      have hspaces := r.text_spaces
      rw [(cutAt_eq_some_iff.mp hcut).1, (cutAt_eq_some_iff.mp hcut').1] at hspaces
      simp only [List.count_append, List.count_cons_self] at hspaces
      omega

/-! ## The law -/

/-- What the tool lists is read back: there is one entry for each candidate, in the order of the
candidates, it says what the candidate is, and there is no other entry. -/
theorem a_listing_is_read_back (listed : List Listed) (typed : String) :
    List.Forall₂ (Describes typed) (listed.filterMap Listed.candidate?)
      (entries (output listed) typed) := by
  have hentries : entries (output listed) typed =
      (listed.map Listed.line).filterMap (itemOf? typed.toList) := by
    rw [entries, unwrap_output]
    cases listed with
    | nil => rfl
    | cons l rest =>
      rw [piecesAt_join (by simp)]
      intro line hline
      obtain ⟨l', -, rfl⟩ := List.mem_map.mp hline
      exact l'.line_one_line
  rw [hentries]
  clear hentries
  induction listed with
  | nil => exact List.Forall₂.nil
  | cons l rest ih =>
    cases l with
    | candidate c =>
      obtain ⟨item, hitem, hdescribes⟩ := itemOf?_candidate typed c
      rw [List.map_cons, List.filterMap_cons_some (Listed.candidate?.eq_1 c),
        List.filterMap_cons_some hitem]
      exact List.Forall₂.cons hdescribes ih
    | remark r =>
      rw [List.map_cons, List.filterMap_cons_none (Listed.candidate?.eq_2 r),
        List.filterMap_cons_none (itemOf?_remark typed.toList r)]
      exact ih

example : ∃ listed : List Listed,
    output listed = "loading\nFormat.printf printf value string\n  -> unit" ∧
      (entries (output listed) "pr").map Item.pair =
        [("printf\tvalue string -> unit", "printf")] := by
  let remark : Remark :=
    ⟨"loading".toList, by decide, by decide +kernel, by decide, by decide⟩
  let wrapped : Wrapped :=
    ⟨"  ".toList, "-> unit".toList, by decide, List.all_eq_true.mp (by decide +kernel), by decide,
      by decide +kernel, by decide⟩
  let printf : Candidate :=
    ⟨"Format.printf".toList, "printf".toList, "value string".toList, [wrapped], by decide,
      by decide, by decide, by decide +kernel, by decide, by decide, by decide, by decide⟩
  exact ⟨[.remark remark, .candidate printf], by decide +kernel, by decide +kernel⟩

end OcamlAssist.Listing
