-- The law of offsets past the end: to ask about one of them is to ask about the
-- end of the text, whether for a line, a place, a word, a query or a type, and
-- no computation behind these questions goes wrong on a machine.
import OcamlAssist.Proofs.Buffer.Checked
import OcamlAssist.Proofs.Query.Basic
import OcamlAssist.Session.Basic

namespace OcamlAssist

open OcamlAssist.Text

/-! ## Documents -/

namespace Document

theorem line_clamp (d : Document) (offset : Nat) :
    d.line (d.buffer.clamp offset) = d.line offset := by
  simp only [line, Buffer.positionOf_clamp]

theorem setCursor_clamp (d : Document) (offset : Nat) :
    d.setCursor (d.buffer.clamp offset) = d.setCursor offset := by
  simp only [setCursor, Buffer.clamp_clamp]

theorem substr_clamp (d : Document) (region : Region) :
    d.substr ⟨d.buffer.clamp region.anchor, d.buffer.clamp region.cursor⟩ = d.substr region := by
  have hfirst : min (d.buffer.clamp region.anchor) (d.buffer.clamp region.cursor) =
      d.buffer.clamp region.first := by
    unfold Buffer.clamp Region.first
    omega
  have hlast : max (d.buffer.clamp region.anchor) (d.buffer.clamp region.cursor) =
      d.buffer.clamp region.last := by
    unfold Buffer.clamp Region.last
    omega
  unfold substr
  rw [Region.first, Region.last, hfirst, hlast, Buffer.slice_clamp_start, Buffer.slice_clamp_stop]

end Document

/-! ## Queries -/

namespace Query

theorem lineBefore_clamp (d : Document) (location : Nat) :
    lineBefore d (d.buffer.clamp location) = lineBefore d location := by
  rw [lineBefore_eq, lineBefore_eq, Buffer.positionOf_clamp]
  congr 1
  exact d.buffer.clamp_clamp location

theorem at?_clamp (d : Document) (location : Nat) :
    at? d (d.buffer.clamp location) = at? d location := by
  simp [at?, lineBefore_clamp, contextAt]

end Query

namespace Checked

def contextAt (d : Document) (location : Nat) : Option (Option String) :=
  match d.path with
  | some file => do
    let place ← positionOf d.buffer location
    return some (file ++ ":" ++ toString place.line ++ "," ++ toString place.column)
  | none => some none

/-- The query at a place. That no token ends there is no fault. -/
def query (d : Document) (location : Nat) : Option (Option Query) := do
  let row ← line d location
  let text ← substr d ⟨row.first, location⟩
  match Token.atEnd? text with
  | some token =>
    let context ← contextAt d location
    return some
      { moduleName := d.path.bind ModuleName.ofFile?
        token := String.ofList token
        context
        settings := d.settings }
  | none => return none

theorem contextAt_eq (d : Document) (location : Nat) :
    contextAt d location = some (Query.contextAt d location) := by
  unfold contextAt Query.contextAt
  cases d.path with
  | none => rfl
  | some file => simp [positionOf_eq]

theorem query_eq {d : Document} (hheld : d.length < wordLimit) (location : Nat) :
    query d location = some (Query.at? d location) := by
  unfold query Query.at? Query.lineBefore
  simp only [line_eq hheld, substr_eq, Option.bind_eq_bind, Option.bind_some]
  cases Token.atEnd? (d.substr ⟨(d.line location).first, location⟩) with
  | none => rfl
  | some token => simp [contextAt_eq]

/-! ## Types -/

/-- The end of the word behind a mark. -/
def behindMark (b : Buffer) (offset : Nat) : Option Nat := do
  let behind ← add offset 1
  if b.charAt behind = some ' ' then some behind else wordEnd b behind

/-- Passes over the marks from an offset on, with the word behind each of them. A turn that got no
further would be repeated for ever, so it has no result either. -/
def pastMarks (b : Buffer) (offset : Nat) : Option Nat :=
  if h : offset < b.chars.length then
    if b.chars[offset] ∈ ['_', '#', '\''] then
      match behindMark b offset with
      | some stop => if offset < stop then pastMarks b stop else none
      | none => none
    else some offset
  else some offset
  termination_by b.chars.length - offset

def typePlace (b : Buffer) (region : Region) : Option Nat := do
  let stop ← wordEnd b region.last
  pastMarks b stop

def type? (s : Session) (v : View) (region : Region) : Option (Option (Lookup String)) := do
  let place ← typePlace v.document.buffer region
  let query ← query v.document place
  return query.map fun query =>
    { invocation := Session.typeInvocation (s.includes v) query
      answer := Session.typeMessage query.token }

theorem behindMark_eq {b : Buffer} {offset : Nat} (hheld : b.length < wordLimit)
    (hlt : offset < b.length) :
    behindMark b offset =
      some (if b.charAt (offset + 1) = some ' ' then offset + 1 else b.wordEnd (offset + 1)) := by
  unfold behindMark
  rw [add_eq hheld hlt]
  simp only [Option.bind_eq_bind, Option.bind_some, wordEnd_eq hheld]
  split <;> rfl

theorem pastMarks_eq {b : Buffer} (hheld : b.length < wordLimit) (offset : Nat) :
    pastMarks b offset = some (Session.pastMarks b offset) := by
  fun_induction Session.pastMarks b offset with
  | case1 offset hlt hmark ih =>
    have hword := b.le_wordEnd (show offset + 1 ≤ b.length from hlt)
    have hfurther : offset <
        if b.charAt (offset + 1) = some ' ' then offset + 1 else b.wordEnd (offset + 1) := by
      split <;> omega
    rw [pastMarks]
    simpa [hlt, hmark, behindMark_eq hheld hlt, hfurther] using ih
  | case2 offset hlt hmark =>
    rw [pastMarks, dif_pos hlt, if_neg hmark]
  | case3 offset hge =>
    rw [pastMarks, dif_neg hge]

theorem type?_eq {v : View} (hheld : v.document.length < wordLimit) (s : Session)
    (region : Region) : type? s v region = some (s.type? v region) := by
  simp [type?, typePlace, wordEnd_eq hheld, pastMarks_eq hheld, query_eq hheld, Session.type?,
    Session.typePlace]

end Checked

namespace Session

theorem typePlace_congr {b : Buffer} {region other : Region}
    (h : other.last = b.clamp region.last) : typePlace b other = typePlace b region := by
  unfold typePlace
  rw [h, Buffer.wordEnd_clamp]

/-! ## The law -/

/-- To ask about an offset is to ask about the nearest offset of the text. -/
structure AsksInside (s : Session) (v : View) (offset : Nat) : Prop where
  line : v.document.line offset = v.document.line (min offset v.document.length)
  place : v.document.buffer.positionOf offset =
    v.document.buffer.positionOf (min offset v.document.length)
  wordEnd : v.document.buffer.wordEnd offset =
    v.document.buffer.wordEnd (min offset v.document.length)
  wordBefore : v.document.buffer.wordBefore offset =
    v.document.buffer.wordBefore (min offset v.document.length)
  cursor : v.document.setCursor offset = v.document.setCursor (min offset v.document.length)
  query : Query.at? v.document offset = Query.at? v.document (min offset v.document.length)
  type : ∀ region other : Region, region.last = offset →
    other.last = min offset v.document.length → s.type? v region = s.type? v other

/-- No computation about a view goes wrong, and each of them gives the answer. -/
structure NeverFails (s : Session) (v : View) : Prop where
  line : ∀ offset, Checked.line v.document offset = some (v.document.line offset)
  substr : ∀ region, Checked.substr v.document region = some (v.document.substr region)
  place : ∀ offset, Checked.positionOf v.document.buffer offset =
    some (v.document.buffer.positionOf offset)
  lineStart : ∀ row, Checked.lineStart v.document.buffer row = v.document.buffer.lineStart row
  offsetOf : ∀ position, Checked.offsetOf v.document.buffer position =
    some (v.document.buffer.offsetOf position)
  wordEnd : ∀ offset, Checked.wordEnd v.document.buffer offset =
    some (v.document.buffer.wordEnd offset)
  wordBefore : ∀ offset, Checked.wordBefore v.document.buffer offset =
    some (v.document.buffer.wordBefore offset)
  query : ∀ offset, Checked.query v.document offset = some (Query.at? v.document offset)
  type : ∀ region, Checked.type? s v region = some (s.type? v region)

theorem asksInside (s : Session) (v : View) (offset : Nat) : s.AsksInside v offset where
  line := (v.document.line_clamp offset).symm
  place := (v.document.buffer.positionOf_clamp offset).symm
  wordEnd := (v.document.buffer.wordEnd_clamp offset).symm
  wordBefore := (v.document.buffer.wordBefore_clamp offset).symm
  cursor := (v.document.setCursor_clamp offset).symm
  query := (Query.at?_clamp v.document offset).symm
  type := by
    rintro region other rfl hother
    unfold type?
    rw [typePlace_congr hother]

/-- To ask about an offset past the end is to ask about the end of the text, and the text in a region
is what the region holds of the document. Lines and positions, also those that are not there, stand
inside the text or at its end. If the length of the text fits in a word, no computation behind these
answers leaves the text, goes below zero or gets a number that does not fit. -/
theorem an_offset_past_the_end_is_the_end (s : Session) (v : View) :
    (∀ offset, s.AsksInside v offset) ∧
      (∀ region : Region, v.document.substr region = v.document.substr
        ⟨min region.anchor v.document.length, min region.cursor v.document.length⟩) ∧
      (∀ row column, v.document.buffer.lineStart row ≤ v.document.length ∧
        v.document.buffer.offsetOf ⟨row, column⟩ ≤ v.document.length) ∧
      (v.document.length < wordLimit → s.NeverFails v) := by
  refine ⟨s.asksInside v, fun region => (v.document.substr_clamp region).symm, fun row column => ?_,
    fun hheld => ?_⟩
  · exact ⟨Buffer.startOf_le_length _ row, Buffer.offsetOf_le_length _ _⟩
  · exact
      { line := Checked.line_eq hheld
        substr := Checked.substr_eq v.document
        place := Checked.positionOf_eq v.document.buffer
        lineStart := Checked.lineStart_eq v.document.buffer
        offsetOf := Checked.offsetOf_eq hheld
        wordEnd := Checked.wordEnd_eq hheld
        wordBefore := Checked.wordBefore_eq v.document.buffer
        query := Checked.query_eq hheld
        type := Checked.type?_eq hheld s }

/-- From the last offset that a word holds, the type is asked of the identifier at the end. -/
theorem the_last_offset_of_all_is_at_the_end :
    let v : View := { id := ⟨1⟩, document := Document.ofString "let x' = 1\nx'" }
    v.document.length < wordLimit ∧
      Checked.type? {} v ⟨wordLimit - 1, 4⟩ = some (type? {} v ⟨4, 13⟩) ∧
      (type? {} v ⟨4, 13⟩).map (·.invocation.query) = some "x'" := by
  intro v
  have hheld : v.document.length < wordLimit := by decide +kernel
  obtain ⟨hinside, -, -, hnever⟩ := an_offset_past_the_end_is_the_end {} v
  refine ⟨hheld, ?_, by decide +kernel⟩
  rw [(hnever hheld).type, (hinside (wordLimit - 1)).type _ ⟨4, 13⟩ (by decide) (by decide +kernel)]

end Session

end OcamlAssist
