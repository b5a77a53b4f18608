-- The law of the query behind a value access `record.field`: it asks for the
-- field, unless a capital stands in the name of the record. A token opens with
-- any capital, so the first one in that name opens a path with all behind it.
import OcamlAssist.Proofs.Query.Basic

namespace OcamlAssist

open OcamlAssist.Chars OcamlAssist.Text

/-! ## Accesses -/

/-- A field of a value, at the end of a text. What is in front of the access is no part of it. -/
structure Access where
  before : List Char
  record : List Char
  field : List Char
  before_ends : ∀ c, before.getLast? = some c → Token.isPathChar c = false
  record_chars : ∀ c ∈ record, isIdent c = true ∨ c = '\''
  record_opens : ∃ c, record.head? = some c ∧ ('a' ≤ c ∧ c ≤ 'z' ∨ c = '_')
  field_chars : ∀ c ∈ field, isIdent c = true ∨ c = '\''
  field_opens : ∃ c, field.head? = some c ∧ 'a' ≤ c ∧ c ≤ 'z'

namespace Access

/-- The text that ends with the access. -/
def written (a : Access) : List Char := a.before ++ (a.record ++ '.' :: a.field)

theorem record_head_not_capital (a : Access) {c : Char} (hc : a.record.head? = some c) :
    isCapital c = false := by
  obtain ⟨first, hfirst, hopens⟩ := a.record_opens
  obtain rfl : first = c := Option.some.inj (hfirst.symm.trans hc)
  rcases hopens with ⟨hlow, -⟩ | rfl
  · have hbehind : ¬first ≤ 'Z' := by
      intro hhigh
      have hletters : 'a' ≤ 'Z' := Char.le_trans hlow hhigh
      exact absurd hletters (by decide)
    simp [isCapital, hbehind]
  · decide

theorem isToken_field (a : Access) : Token.IsToken a.field := by
  obtain ⟨c, hc, -⟩ := a.field_opens
  refine Or.inr ⟨List.ne_nil_of_mem (List.mem_of_mem_head? hc), fun x hx => ?_⟩
  exact (a.field_chars x hx).imp_right Or.inr

theorem isToken_of_capital (a : Access) {c : Char} {rest : List Char} (hc : isCapital c = true)
    (hrest : c :: rest <:+ a.record) : Token.IsToken (c :: (rest ++ '.' :: a.field)) := by
  rw [isCapital, Bool.and_eq_true, decide_eq_true_eq, decide_eq_true_eq] at hc
  refine Or.inl ⟨c, _, rfl, hc.1, hc.2, fun x hx => ?_⟩
  rcases List.mem_append.mp hx with hx | hx
  · have hrecord := a.record_chars x (hrest.subset (List.mem_cons_of_mem c hx))
    tauto
  · rcases List.mem_cons.mp hx with rfl | hx
    · exact Or.inr (Or.inl rfl)
    · have hfield := a.field_chars x hx
      tauto

/-! ## Tokens at the end of an access -/

/-- No token reaches over what is in front of the access. -/
theorem suffix_of_isToken (a : Access) {s : List Char} (hs : s <:+ a.written)
    (htoken : Token.IsToken s) : s <:+ a.record ++ '.' :: a.field := by
  refine (suffix_append_cases hs).resolve_right ?_
  rintro ⟨w, hne, rfl, hw⟩
  have hlast : w.getLast hne ∈ w := List.getLast_mem hne
  have hpath := Token.isPathChar_of_isToken (Token.isToken_iff.mpr htoken) (w.getLast hne)
    (List.mem_append_left _ hlast)
  obtain ⟨front, hfront⟩ := hw
  have hbefore : a.before.getLast? = some (w.getLast hne) := by
    rw [← hfront, List.getLast?_append_of_ne_nil front hne, List.getLast?_eq_some_getLast hne]
  rw [a.before_ends _ hbefore] at hpath
  exact Bool.noConfusion hpath

/-- A token at the end of the access ends the field, or is a path that a capital in the name of
the record opens. -/
theorem isToken_cases (a : Access) {s : List Char} (hs : s <:+ a.written)
    (htoken : Token.IsToken s) :
    s <:+ a.field ∨ ∃ c rest, isCapital c = true ∧ c :: rest <:+ a.record ∧
      s = c :: (rest ++ '.' :: a.field) := by
  have hdot : ¬(isIdent '.' = true ∨ '.' = '#' ∨ '.' = '\'') := by decide +kernel
  have hopen : ∀ w, w <:+ a.record → s = w ++ '.' :: a.field → ∃ c rest, isCapital c = true ∧
      c :: rest <:+ a.record ∧ s = c :: (rest ++ '.' :: a.field) := by
    rintro w hw rfl
    rcases htoken with ⟨c, tail, hcons, hlow, hhigh, -⟩ | ⟨-, hname⟩
    · cases w with
      | nil =>
        obtain ⟨rfl, -⟩ := List.cons.inj hcons
        exact absurd hlow (by decide)
      | cons x rest =>
        obtain ⟨rfl, -⟩ := List.cons.inj hcons
        exact ⟨x, rest, by simp [isCapital, hlow, hhigh], hw, rfl⟩
    · exact absurd (hname '.' (by simp)) hdot
  rcases suffix_append_cases (a.suffix_of_isToken hs htoken) with hs | ⟨w, -, hs, hw⟩
  · rcases List.suffix_cons_iff.mp hs with hs | hs
    · exact Or.inr (hopen [] (List.nil_suffix) hs)
    · exact Or.inl hs
  · exact Or.inr (hopen w hw hs)

theorem atEnd?_of_no_capital (a : Access) (h : ∀ c ∈ a.record, isCapital c = false) :
    Token.atEnd? a.written = some a.field := by
  rw [Token.atEnd?_eq_some_iff]
  refine ⟨?_, a.isToken_field, fun s hs htoken => ?_⟩
  · exact ((List.suffix_cons '.' a.field).trans (List.suffix_append a.record _)).trans
      (List.suffix_append a.before _)
  · refine (a.isToken_cases hs htoken).resolve_right ?_
    rintro ⟨c, rest, hc, hrest, -⟩
    rw [h c (hrest.subset List.mem_cons_self)] at hc
    exact Bool.noConfusion hc

theorem atEnd?_of_capital (a : Access) {front rest : List Char} {c : Char}
    (hrecord : a.record = front ++ c :: rest) (hfront : ∀ x ∈ front, isCapital x = false)
    (hc : isCapital c = true) : Token.atEnd? a.written = some (c :: (rest ++ '.' :: a.field)) := by
  have hrest : c :: rest <:+ a.record := hrecord ▸ List.suffix_append front (c :: rest)
  rw [Token.atEnd?_eq_some_iff]
  refine ⟨?_, a.isToken_of_capital hc hrest, fun s hs htoken => ?_⟩
  · exact (List.suffix_append_self_iff.mpr hrest).trans (List.suffix_append a.before _)
  · rcases a.isToken_cases hs htoken with hs | ⟨x, tail, hx, htail, rfl⟩
    · have hfield : a.field <:+ rest ++ '.' :: a.field :=
        (List.suffix_cons '.' a.field).trans (List.suffix_append rest _)
      exact (hs.trans hfield).trans (List.suffix_cons c _)
    · -- The capital that opens this path is not in front of the first one.
      rw [hrecord] at htail
      rcases suffix_append_cases htail with htail | ⟨w, hne, hw, hsuffix⟩
      · exact List.suffix_append_self_iff.mpr htail
      · obtain ⟨y, w, rfl⟩ := List.exists_cons_of_ne_nil hne
        obtain ⟨rfl, -⟩ := List.cons.inj hw
        rw [hfront x (hsuffix.subset List.mem_cons_self)] at hx
        exact Bool.noConfusion hx

end Access

/-! ## The law -/

namespace Query

theorem exists_of_atEnd? {d : Document} {location : Nat} {token : List Char}
    (h : Token.atEnd? (lineBefore d location) = some token) :
    ∃ q, at? d location = some q ∧ q.token.toList = token := by
  rw [at?, h]
  exact ⟨_, rfl, String.toList_ofList⟩

/-- At the end of a value access there is a query. It asks for the field exactly if the name of the
record has no capital. Otherwise it asks for what the first capital opens, which is a part of that
name with the field behind it. -/
theorem an_access_asks_for_its_field_unless_the_record_has_a_capital (d : Document)
    (location start : Nat) (a : Access)
    (hstart : Buffer.LineStartsAt d.buffer.chars (min location d.length) start)
    (hwritten : d.between start (min location d.length) = a.written) :
    ∃ q, at? d location = some q ∧
      (q.token.toList = a.field ↔ ∀ c ∈ a.record, isCapital c = false) ∧
      ∀ front c rest, a.record = front ++ c :: rest → (∀ x ∈ front, isCapital x = false) →
        isCapital c = true → front ≠ [] ∧ q.token.toList = c :: (rest ++ '.' :: a.field) := by
  have hline : lineBefore d location = a.written := by
    rw [lineBefore_eq, ← hstart.unique (lineStartsAt_positionOf d location), hwritten]
  have hcapital : ∀ front c rest, a.record = front ++ c :: rest →
      (∀ x ∈ front, isCapital x = false) → isCapital c = true →
        ∃ q, at? d location = some q ∧ q.token.toList = c :: (rest ++ '.' :: a.field) := by
    intro front c rest hrecord hfront hc
    exact exists_of_atEnd? (by rw [hline, a.atEnd?_of_capital hrecord hfront hc])
  by_cases hplain : ∀ c ∈ a.record, isCapital c = false
  · have hfound : Token.atEnd? (lineBefore d location) = some a.field := by
      rw [hline, a.atEnd?_of_no_capital hplain]
    obtain ⟨q, hq, hfield⟩ := exists_of_atEnd? hfound
    refine ⟨q, hq, ⟨fun _ => hplain, fun _ => hfield⟩, fun front c rest hrecord _ hc => ?_⟩
    rw [hplain c (by simp [hrecord])] at hc
    exact Bool.noConfusion hc
  · obtain ⟨front, c, rest, hrecord, hfront, hc⟩ := exists_first hplain
    obtain ⟨q, hq, htoken⟩ := hcapital front c rest hrecord hfront hc
    refine ⟨q, hq, ⟨fun hfield => ?_, fun h => absurd h hplain⟩, ?_⟩
    · have hlength := congrArg List.length (htoken.symm.trans hfield)
      rw [List.length_cons, List.length_append, List.length_cons] at hlength
      omega
    · intro front c rest hrecord hfront hc
      obtain ⟨q', hq', htoken'⟩ := hcapital front c rest hrecord hfront hc
      obtain rfl : q = q' := Option.some.inj (hq.symm.trans hq')
      refine ⟨?_, htoken'⟩
      rintro rfl
      rw [a.record_head_not_capital (by rw [hrecord]; rfl)] at hc
      exact Bool.noConfusion hc

theorem a_field_of_a_record_without_capitals :
    ∃ (d : Document) (a : Access), d.buffer.text = "let y =\n  f my_rec.fiel" ∧
      Buffer.LineStartsAt d.buffer.chars (min 23 d.length) 8 ∧
      d.between 8 (min 23 d.length) = a.written ∧ (at? d 23).map Query.token = some "fiel" := by
  let d : Document := Document.ofString "let y =\n  f my_rec.fiel"
  have hbefore : ∀ c, "  f ".toList.getLast? = some c → Token.isPathChar c = false := by
    intro c hc
    obtain rfl : ' ' = c := Option.some.inj hc
    decide +kernel
  have hrecord : ∀ c ∈ "my_rec".toList, isIdent c = true := List.all_eq_true.mp (by decide +kernel)
  have hfield : ∀ c ∈ "fiel".toList, isIdent c = true := List.all_eq_true.mp (by decide +kernel)
  let a : Access :=
    ⟨"  f ".toList, "my_rec".toList, "fiel".toList, hbefore, fun c hc => Or.inl (hrecord c hc),
      ⟨'m', by decide⟩, fun c hc => Or.inl (hfield c hc), ⟨'f', by decide⟩⟩
  have hstart : Buffer.LineStartsAt d.buffer.chars (min 23 d.length) 8 :=
    Buffer.lineStartsAt_iff.mpr (by decide +kernel)
  have hwritten : d.between 8 (min 23 d.length) = a.written := rfl
  obtain ⟨q, hq, htoken, -⟩ :=
    an_access_asks_for_its_field_unless_the_record_has_a_capital d 23 8 a hstart hwritten
  have hplain : ∀ c ∈ a.record, isCapital c = false := by
    simp [a, isCapital]
  refine ⟨d, a, by decide +kernel, hstart, hwritten, ?_⟩
  rw [hq, Option.map_some, ← String.ofList_toList (s := q.token), htoken.mpr hplain]
  rfl

/-- The token opens in the middle of the record's name. -/
theorem a_capital_in_the_record_opens_a_path :
    (at? (Document.ofString "myRec.field") 11).map Query.token = some "Rec.field" := by
  decide +kernel

end Query

end OcamlAssist
