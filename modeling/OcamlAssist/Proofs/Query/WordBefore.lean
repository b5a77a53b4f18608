-- The law of the word in front of a place and the query there: the query ends
-- with the word, where words hold identifier characters only. Behind no word
-- there may still be a query, which then ends in a character of no word.
import OcamlAssist.Proofs.Buffer.Words
import OcamlAssist.Proofs.Query.Basic

namespace OcamlAssist

open OcamlAssist.Chars

/-- The words among some characters hold identifier characters only. -/
def WordsAreIdents (text : List Char) : Prop := ∀ c ∈ text, isWord c = true → isIdent c = true

namespace Query

/-! ## The word -/

theorem wordBefore_eq (d : Document) (location : Nat) :
    (d.buffer.wordBefore location).toList =
      d.between (d.buffer.wordStart location) (min location d.length) := by
  rw [Buffer.wordBefore, String.toList_ofList, Buffer.slice_eq]
  rfl

/-- No line ends in a word, so the word is on the line of the place. -/
theorem wordBefore_suffix {d : Document} {location start : Nat}
    (h : Buffer.LineStartsAt d.buffer.chars (min location d.length) start) :
    (d.buffer.wordBefore location).toList <:+ d.between start (min location d.length) := by
  have hrun := Buffer.runAround_word d.buffer location
  have hline := hrun.lineStartsAt (fun _ => Buffer.isWord_eq_false_of_mem_breaks) h
    hrun.start_le hrun.le_stop
  rw [wordBefore_eq]
  exact between_suffix d hline.1 _

/-- A word of identifier characters is a token. -/
theorem isToken_wordBefore {d : Document} {location start : Nat}
    (h : Buffer.LineStartsAt d.buffer.chars (min location d.length) start)
    (hwords : WordsAreIdents (d.between start (min location d.length)))
    (hne : d.buffer.wordBefore location ≠ "") :
    Token.IsToken (d.buffer.wordBefore location).toList := by
  obtain ⟨-, -, -, hword, -⟩ := Buffer.exists_front_wordBefore d.buffer location
  refine Or.inr ⟨fun hnil => hne (String.toList_eq_nil_iff.mp hnil), fun c hc => Or.inl ?_⟩
  exact hwords c ((wordBefore_suffix h).subset hc) (hword c hc)

/-- Behind no word no character of a word stands. -/
theorem not_isWord_of_wordBefore_eq {d : Document} {location start : Nat} {text : List Char}
    {c : Char} (hempty : d.buffer.wordBefore location = "")
    (hsuffix : text <:+ d.between start (min location d.length)) (hlast : text.getLast? = some c) :
    isWord c = false := by
  obtain ⟨front, hcut, -, -, hfront⟩ := Buffer.exists_front_wordBefore d.buffer location
  rw [hempty, String.toList_empty, List.append_nil] at hcut
  obtain ⟨before, hbefore⟩ : text <:+ front := hcut ▸ hsuffix.trans (List.drop_suffix start _)
  have hne : text ≠ [] := by
    rintro rfl
    cases hlast
  refine hfront c ?_
  rw [← hbefore, List.getLast?_append_of_ne_nil before hne, hlast]

/-! ## The law -/

/-- Where words hold identifier characters only, as they do in ASCII, there is a query behind every
word, and it ends with the word. A query behind no word ends in a quote mark, a hash, a dot, or an
identifier character that is in no word. -/
theorem a_query_ends_with_the_word_before_the_place (d : Document) (location : Nat) :
    ∃ start, Buffer.LineStartsAt d.buffer.chars (min location d.length) start ∧
      ((∀ c ∈ d.between start (min location d.length), c.toNat < 128) →
        WordsAreIdents (d.between start (min location d.length))) ∧
      (WordsAreIdents (d.between start (min location d.length)) →
        d.buffer.wordBefore location ≠ "" →
          ∃ q, at? d location = some q ∧
            (d.buffer.wordBefore location).toList <:+ q.token.toList) ∧
      (∀ q, at? d location = some q → d.buffer.wordBefore location = "" →
        ∃ c, q.token.toList.getLast? = some c ∧
          (c = '\'' ∨ c = '#' ∨ c = '.' ∨ (isIdent c = true ∧ isWord c = false))) := by
  have hline := lineStartsAt_positionOf d location
  refine ⟨_, hline, fun hascii c hc => isIdent_of_isWord (hascii c hc), fun hwords hne => ?_,
    fun q hq hempty => ?_⟩
  · have htoken := isToken_wordBefore hline hwords hne
    have hsuffix := wordBefore_suffix hline
    obtain ⟨q, hq⟩ := Option.isSome_iff_exists.mp
      ((isSome_at?_iff d location).mpr ⟨_, _, hline, hsuffix, htoken⟩)
    exact ⟨q, hq, (asksAt_of_at? hq).longest _ hsuffix htoken⟩
  · have hasks := asksAt_of_at? hq
    have hlast := List.getLast?_eq_some_getLast hasks.isToken.ne_nil
    generalize q.token.toList.getLast hasks.isToken.ne_nil = c at hlast
    have hword := not_isWord_of_wordBefore_eq hempty hasks.ends_at_place hlast
    have hpath := Token.isPathChar_of_isToken (Token.isToken_iff.mpr hasks.isToken) c
      (List.mem_of_getLast? hlast)
    refine ⟨c, hlast, ?_⟩
    rcases Token.isPathChar_iff.mp hpath with hident | hdot | hhash | htick
    · exact Or.inr (Or.inr (Or.inr ⟨hident, hword⟩))
    · exact Or.inr (Or.inr (Or.inl hdot))
    · exact Or.inr (Or.inl hhash)
    · exact Or.inl htick

-- A word with a character of no identifier has no query behind it.
example : (Buffer.ofString "x²").wordBefore 2 = "x²" ∧ at? (Document.ofString "x²") 2 = none := by
  decide +kernel

end Query

end OcamlAssist
