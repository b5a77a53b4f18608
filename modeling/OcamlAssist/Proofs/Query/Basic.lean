-- The law of the query: it asks for the longest token that ends at the place,
-- on the line of the place only, and its context points at the end of that
-- token. What it asks for is never white space and never an option.
import OcamlAssist.Query.Basic
import OcamlAssist.Proofs.Buffer.Places
import OcamlAssist.Proofs.Query.Token

namespace OcamlAssist

open OcamlAssist.Chars OcamlAssist.Text

/-! ## The text in front of a place -/

/-- The characters from one offset up to another. -/
def Document.between (d : Document) (start stop : Nat) : List Char :=
  (d.buffer.chars.take stop).drop start

namespace Query

theorem mem_between_iff {d : Document} {start stop : Nat} {c : Char} :
    c ∈ d.between start stop ↔ ∃ k, start ≤ k ∧ k < stop ∧ d.buffer.chars[k]? = some c := by
  simp only [Document.between, List.mem_iff_getElem?, List.getElem?_drop, List.getElem?_take,
    Option.ite_none_right_eq_some]
  constructor
  · rintro ⟨i, hstop, hc⟩
    exact ⟨start + i, Nat.le_add_right _ _, hstop, hc⟩
  · rintro ⟨k, hstart, hstop, hc⟩
    obtain ⟨i, rfl⟩ := Nat.exists_eq_add_of_le hstart
    exact ⟨i, hstop, hc⟩

/-- What starts later on ends what starts earlier. -/
theorem between_suffix (d : Document) {start start' : Nat} (h : start ≤ start') (stop : Nat) :
    d.between start' stop <:+ d.between start stop := by
  have hdrop : d.between start' stop = (d.between start stop).drop (start' - start) := by
    rw [Document.between, Document.between, List.drop_drop, Nat.add_sub_cancel' h]
  rw [hdrop]
  exact List.drop_suffix _ _

theorem positionOf_start_add_column (d : Document) (location : Nat) :
    d.buffer.lineStart (d.buffer.positionOf location).line +
      (d.buffer.positionOf location).column = min location d.length :=
  d.buffer.lineStart_add_column location

theorem lineStartsAt_positionOf (d : Document) (location : Nat) :
    Buffer.LineStartsAt d.buffer.chars (min location d.length)
      (d.buffer.lineStart (d.buffer.positionOf location).line) :=
  Buffer.lineStartsAt_iff.mpr rfl

theorem lineBefore_eq (d : Document) (location : Nat) :
    lineBefore d location =
      d.between (d.buffer.lineStart (d.buffer.positionOf location).line)
        (min location d.length) := by
  have hplace := positionOf_start_add_column d location
  generalize hstart : d.buffer.lineStart (d.buffer.positionOf location).line = start at *
  have hfirst : (d.line location).first = start := by
    simp [Document.line, Region.first, hstart]
  have hle : start ≤ location := by omega
  rw [lineBefore, Document.substr, hfirst, Region.first, Region.last, Nat.min_eq_left hle,
    Nat.max_eq_right hle, Buffer.slice_eq]
  rfl

/-! ## Places with a query -/

/-- A token ends at a place, on the line of the place. -/
def TokenEndsAt (d : Document) (location : Nat) : Prop :=
  ∃ start s, Buffer.LineStartsAt d.buffer.chars (min location d.length) start ∧
    s <:+ d.between start (min location d.length) ∧ Token.IsToken s

theorem isSome_at?_iff (d : Document) (location : Nat) :
    (at? d location).isSome = true ↔ TokenEndsAt d location := by
  have hline := lineStartsAt_positionOf d location
  rw [at?, Option.isSome_map, lineBefore_eq, Token.isSome_atEnd?_iff]
  constructor
  · rintro ⟨s, hsuffix, hs⟩
    exact ⟨_, s, hline, hsuffix, hs⟩
  · rintro ⟨start, s, hstart, hsuffix, hs⟩
    rw [hstart.unique hline] at hsuffix
    exact ⟨s, hsuffix, hs⟩

/-! ## The law -/

/-- What a query at a place has to say, on the line that starts at `start`. -/
structure AsksAt (d : Document) (place start : Nat) (q : Query) : Prop where
  ends_at_place : q.token.toList <:+ d.between start place
  isToken : Token.IsToken q.token.toList
  longest : ∀ s, s <:+ d.between start place → Token.IsToken s → s <:+ q.token.toList
  no_blank : ∀ c ∈ q.token.toList, isBlank c = false
  no_option : q.token.toList.head? ≠ some '-'
  context : ∃ row column, d.buffer.lineStart row = start ∧ start + column = place ∧
    q.context = d.path.map (fun file => file ++ ":" ++ toString row ++ "," ++ toString column) ∧
    d.between (d.buffer.lineStart row + column - q.token.length)
      (d.buffer.lineStart row + column) = q.token.toList

/-- A text that ends the characters up to a place is what stands in front of the place. -/
theorem between_of_suffix {d : Document} {start place : Nat} {text : List Char}
    (hplace : place ≤ d.length) (h : text <:+ d.between start place) :
    d.between (place - text.length) place = text := by
  have hlength : (d.buffer.chars.take place).length = place :=
    List.length_take_of_le hplace
  have hsuffix : text <:+ d.buffer.chars.take place := h.trans (List.drop_suffix start _)
  rw [List.suffix_iff_eq_drop, hlength] at hsuffix
  exact hsuffix.symm

theorem asksAt_of_at? {d : Document} {location : Nat} {q : Query} (h : at? d location = some q) :
    AsksAt d (min location d.length)
      (d.buffer.lineStart (d.buffer.positionOf location).line) q := by
  obtain ⟨token, htoken, rfl⟩ := Option.map_eq_some_iff.mp h
  rw [lineBefore_eq, Token.atEnd?_eq_some_iff] at htoken
  obtain ⟨hsuffix, hisToken, hlongest⟩ := htoken
  have hpath := Token.isPathChar_of_isToken (Token.isToken_iff.mpr hisToken)
  have hplace := positionOf_start_add_column d location
  refine ⟨by simpa using hsuffix, by simpa using hisToken, by simpa using hlongest, ?_, ?_, ?_⟩
  · simp only [String.toList_ofList]
    exact fun c hc => Token.isBlank_eq_false_of_isPathChar (hpath c hc)
  · simp only [String.toList_ofList]
    intro hhead
    have hhyphen := hpath '-' (List.mem_of_mem_head? hhead)
    revert hhyphen
    decide +kernel
  · refine ⟨(d.buffer.positionOf location).line, (d.buffer.positionOf location).column, rfl,
      hplace, rfl, ?_⟩
    rw [hplace]
    simp only [String.toList_ofList, String.length_ofList]
    exact between_of_suffix (Nat.min_le_right _ _) hsuffix

/-- There is a query exactly if a token ends at the place, on the line of the place. It asks for
the longest one, and so does a search for the token pattern from left to right over the line up to
the place, with any separators passed over in front of the token or with none. -/
theorem the_query_is_the_longest_token_before_the_place (d : Document) (location : Nat) :
    ∃ start, Buffer.LineStartsAt d.buffer.chars (min location d.length) start ∧
      ((at? d location).isSome = true ↔
        ∃ s, s ≠ [] ∧ s <:+ d.between start (min location d.length) ∧ Token.IsToken s) ∧
      (∀ q, at? d location = some q → AsksAt d (min location d.length) start q) ∧
      Pattern.search? (.next (.many Token.isSeparator) (.atEnd Token.pattern))
        (d.between start (min location d.length)) = (at? d location).map (·.token.toList) ∧
      Pattern.search? (.atEnd Token.pattern)
        (d.between start (min location d.length)) = (at? d location).map (·.token.toList) := by
  refine ⟨_, lineStartsAt_positionOf d location, ?_, fun q hq => asksAt_of_at? hq, ?_⟩
  · rw [at?, Option.isSome_map, lineBefore_eq, Token.isSome_atEnd?_iff]
    constructor
    · rintro ⟨s, hsuffix, hs⟩
      exact ⟨s, hs.ne_nil, hsuffix, hs⟩
    · rintro ⟨s, -, hsuffix, hs⟩
      exact ⟨s, hsuffix, hs⟩
  · have hmap : (at? d location).map (·.token.toList) = Token.atEnd? (lineBefore d location) := by
      rw [at?, Option.map_map]
      simp [Function.comp_def]
    rw [hmap, lineBefore_eq]
    exact Token.search?_pattern _

example : (at? (Document.ofString "let a = 1\nf,List.ma") 19).map Query.token = some "List.ma" := by
  decide +kernel

end Query

end OcamlAssist
