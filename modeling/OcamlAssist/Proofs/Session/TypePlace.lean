-- The law of the place that a type is asked from: it is the end of the
-- identifier at the cursor, wherever in it the cursor is, and on a line of
-- plain ASCII the query ends with all of that identifier.
import OcamlAssist.Proofs.Buffer.Words
import OcamlAssist.Proofs.Query.Basic
import OcamlAssist.Session.Basic

namespace OcamlAssist

open OcamlAssist.Chars OcamlAssist.Buffer

namespace Session

/-- Characters of an identifier at the cursor: those of a word, quote marks and hashes. -/
def isPart (c : Char) : Bool := isWord c || isTick c || c == '#'

theorem isPart_iff {c : Char} : isPart c = true ↔ isWord c = true ∨ c = '#' ∨ c = '\'' := by
  simp [isPart, isTick, or_assoc, or_comm]

theorem isPart_of_isWord {c : Char} (h : isWord c = true) : isPart c = true :=
  isPart_iff.mpr (Or.inl h)

theorem isPart_of_mem_marks {c : Char} (h : c ∈ ['_', '#', '\'']) : isPart c = true := by
  have hmarks : ['_', '#', '\''].all isPart = true := by decide +kernel
  exact List.all_eq_true.mp hmarks c h

/-! ## The place -/

theorem wordEnd_of_space {b : Buffer} {offset : Nat} (h : b.charAt offset = some ' ') :
    b.wordEnd offset = offset := by
  have hlt : offset < b.chars.length := (List.getElem?_eq_some_iff.mp h).1
  have hclamp : b.clamp offset = offset := clamp_of_le (Nat.le_of_lt hlt)
  have hstop := wordEnd_firstStop b offset
  rw [hclamp] at hstop
  have hspace : StopsAt isWord b.chars offset := Or.inr ⟨' ', h, by decide +kernel⟩
  exact Nat.le_antisymm (hstop.2 ⟨Nat.le_refl _, hspace⟩) hstop.1.1

/-- The look-ahead for a space behind a mark changes nothing. -/
theorem ite_wordEnd (b : Buffer) (offset : Nat) :
    (if b.charAt offset = some ' ' then offset else b.wordEnd offset) = b.wordEnd offset := by
  split
  · rename_i hspace
    exact (wordEnd_of_space hspace).symm
  · rfl

/-- From the end of a word on, the marks and the words behind them lead to the first offset that
holds no character of an identifier. -/
theorem pastMarks_firstStop (b : Buffer) (offset : Nat) (h : StopsAt isWord b.chars offset) :
    FirstStop isPart b.chars offset (pastMarks b offset) := by
  fun_induction pastMarks b offset with
  | case1 offset hlt hmark ih =>
    simp only [dite_eq_ite, ite_wordEnd] at ih ⊢
    have hstop := wordEnd_firstStop b (offset + 1)
    rw [clamp_of_le (Nat.succ_le_of_lt hlt)] at hstop
    obtain ⟨hle, hstops, hholds⟩ := firstStop_iff.mp hstop
    refine (ih hstops).extend (Nat.le_of_succ_le hle) fun k hk hbefore => ?_
    rcases Nat.eq_or_lt_of_le hk with rfl | hbehind
    · exact ⟨b.chars[offset], List.getElem?_eq_getElem hlt, isPart_of_mem_marks hmark⟩
    · exact (hholds k hbehind hbefore).mono fun c => isPart_of_isWord
  | case2 offset hlt hmark =>
    have hpart : ¬HoldsAt isPart b.chars offset := by
      rintro ⟨c, hc, hclass⟩
      obtain rfl : b.chars[offset] = c := by simpa [hlt] using hc
      rcases isPart_iff.mp hclass with hword | hash | htick
      · exact h.not_holdsAt ⟨_, hc, hword⟩
      · exact hmark (by simp [hash])
      · exact hmark (by simp [htick])
    have hstops := stopsAt_of_not_holdsAt (Nat.le_of_lt hlt) hpart
    exact firstStop_iff.mpr ⟨Nat.le_refl _, hstops, by omega⟩
  | case3 offset hge =>
    have hend : offset = b.chars.length := Nat.le_antisymm h.le_length (Nat.le_of_not_lt hge)
    exact firstStop_iff.mpr ⟨Nat.le_refl _, Or.inl hend, by omega⟩

/-- The place of a region is the first offset from its end on that holds no character of an
identifier. -/
theorem typePlace_firstStop (b : Buffer) (region : Region) :
    FirstStop isPart b.chars (b.clamp region.last) (typePlace b region) := by
  obtain ⟨hle, hstops, hholds⟩ := firstStop_iff.mp (wordEnd_firstStop b region.last)
  refine (pastMarks_firstStop b _ hstops).extend hle fun k hk hbefore => ?_
  exact (hholds k hk hbefore).mono fun c => isPart_of_isWord

/-- Regions that end in one identifier have the same place. -/
theorem typePlace_eq_of_holds {b : Buffer} {region other : Region}
    (h : ∀ k c, min region.last other.last ≤ k → k < max region.last other.last →
      b.chars[k]? = some c → isPart c = true) : typePlace b other = typePlace b region := by
  have hstop := typePlace_firstStop b region
  have hother := typePlace_firstStop b other
  refine (hstop.eq_of_holds hother fun k hfront hbehind => ?_).symm
  -- Behind the end of the text the two ends are clamped to the same offset.
  simp only [clamp, Buffer.length] at hfront hbehind
  have hlength : k < b.chars.length := by omega
  have hc := List.getElem?_eq_getElem hlength
  exact ⟨_, hc, h k _ (by omega) (by omega) hc⟩

/-! ## The line of the identifier -/

theorem not_isPart_of_mem_breaks {c : Char} (h : c ∈ breaks) : isPart c = false :=
  eq_false_of_mem_breaks (by decide +kernel) h

/-- All characters on the line of an offset are ASCII. -/
def AsciiLineAt (text : List Char) (offset : Nat) : Prop :=
  ∀ line, LineStartsAt text offset line →
    ∀ k c, LineStartsAt text k line → text[k]? = some c → c.toNat < 128

theorem isToken_of_runAround {d : Document} {offset start stop : Nat}
    (hrun : RunAround isPart d.buffer.chars offset start stop)
    (hascii : AsciiLineAt d.buffer.chars offset) (hne : start < stop) :
    Token.IsToken (d.between start stop) := by
  obtain ⟨first, hfirst, -⟩ := hrun.holds start (Nat.le_refl _) hne
  have hmem : first ∈ d.between start stop :=
    Query.mem_between_iff.mpr ⟨start, Nat.le_refl _, hne, hfirst⟩
  refine Or.inr ⟨List.ne_nil_of_mem hmem, fun c hc => ?_⟩
  obtain ⟨k, hstart, hstop, hk⟩ := Query.mem_between_iff.mp hc
  obtain ⟨c', hc', hpart⟩ := hrun.holds k hstart hstop
  obtain rfl : c = c' := Option.some.inj (hk.symm.trans hc')
  have hline := lineStartsAt_locate d.buffer.chars offset
  have hsame := (hrun.lineStartsAt (fun _ => not_isPart_of_mem_breaks) hline hstart (Nat.le_of_lt hstop)).2
  have hcode := hascii _ hline k c hsame hk
  exact (isPart_iff.mp hpart).imp_left (isIdent_of_isWord hcode)

/-- On a line of ASCII the query at the end of an identifier ends with all of it. -/
theorem exists_query_of_runAround {d : Document} {offset start stop : Nat}
    (hrun : RunAround isPart d.buffer.chars (min offset d.length) start stop)
    (hascii : AsciiLineAt d.buffer.chars (min offset d.length)) (hne : start < stop) :
    ∃ query, Query.at? d stop = some query ∧ d.between start stop <:+ query.token.toList := by
  have htoken := isToken_of_runAround hrun hascii hne
  have hplace : min stop d.length = stop := Nat.min_eq_left hrun.stops.le_length
  obtain ⟨hfront, hline⟩ := hrun.lineStartsAt (fun _ => not_isPart_of_mem_breaks)
    (Query.lineStartsAt_positionOf d offset) (Nat.le_of_lt hne) (Nat.le_refl _)
  have hsuffix := Query.between_suffix d hfront stop
  rw [← hplace] at hline
  have hends : Query.TokenEndsAt d stop := ⟨_, _, hline, hplace.symm ▸ hsuffix, htoken⟩
  obtain ⟨query, hquery⟩ := Option.isSome_iff_exists.mp ((Query.isSome_at?_iff d stop).mpr hends)
  have hasks := Query.asksAt_of_at? hquery
  rw [← hline.unique (Query.lineStartsAt_positionOf d stop), hplace] at hasks
  exact ⟨query, hquery, hasks.longest _ hsuffix htoken⟩

/-! ## The law -/

/-- The type at a region is asked from the first offset from the region's end on that holds no
character of an identifier, so regions that end in one identifier ask and answer the same. If there
is an identifier, on a line of ASCII, there is a query, and it ends with all of the identifier. -/
theorem the_type_is_asked_at_the_end_of_the_identifier (s : Session) (v : View) (region : Region) :
    ∃ stop, FirstStop isPart v.document.buffer.chars (min region.last v.document.length) stop ∧
      s.type? v region = (Query.at? v.document stop).map (fun query =>
        ⟨typeInvocation (s.includes v) query, typeMessage query.token⟩) ∧
      (∀ other : Region,
        (∀ k c, min region.last other.last ≤ k → k < max region.last other.last →
          v.document.buffer.chars[k]? = some c → isPart c = true) →
        s.type? v other = s.type? v region) ∧
      (AsciiLineAt v.document.buffer.chars (min region.last v.document.length) →
        Adjoins isPart v.document.buffer.chars (min region.last v.document.length) →
        ∃ query start, Query.at? v.document stop = some query ∧
          RunAround isPart v.document.buffer.chars (min region.last v.document.length) start stop ∧
          v.document.between start stop <:+ query.token.toList) := by
  have hstop := typePlace_firstStop v.document.buffer region
  refine ⟨_, hstop, rfl, fun other hbetween => ?_, fun hascii hpart => ?_⟩
  · rw [type?, type?, typePlace_eq_of_holds hbetween]
  · obtain ⟨start, hrun⟩ := hstop.exists_runAround
    have hne := hrun.lt_of_adjoins hpart
    obtain ⟨query, hquery, hends⟩ := exists_query_of_runAround hrun hascii hne
    exact ⟨query, start, hquery, hrun, hends⟩

example : typePlace (Buffer.ofString "f x'_1#m y") ⟨2, 3⟩ = 8 := by
  decide +kernel

end Session

end OcamlAssist
