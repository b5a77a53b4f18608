-- How the character classes lie to each other: no white space is in an
-- identifier, every capital of the basic Latin alphabet is, and in ASCII so is
-- every character of a word.
import OcamlAssist.Chars.Class

namespace OcamlAssist.Chars

/-- The code points of a table, one by one. -/
def Ranges.codes (ranges : Ranges) : List Nat :=
  ranges.flatMap fun range => List.range' range.1 (range.2 - range.1 + 1)

theorem Ranges.mem_codes_of_has {ranges : Ranges} {code : Nat} (h : ranges.has code = true) :
    code ∈ ranges.codes := by
  induction ranges with
  | nil => exact absurd h (by simp [Ranges.has])
  | cons range rest ih =>
    obtain ⟨first, last⟩ := range
    rw [Ranges.codes, List.flatMap_cons, List.mem_append]
    unfold Ranges.has at h
    split at h
    · exact absurd h (by simp)
    · rename_i hfirst
      rw [Bool.or_eq_true, decide_eq_true_eq] at h
      rcases h with hlast | hrest
      · left
        rw [List.mem_range'_1]
        simp only
        omega
      · right
        exact ih hrest

/-- No white space is in an identifier. -/
theorem isIdent_eq_false_of_isBlank {c : Char} (h : isBlank c = true) : isIdent c = false := by
  have hall : ∀ code ∈ blank.codes, (alphabetic.has code || decimal.has code ||
      connector.has code || mark.has code || joiner.has code) = false := by
    decide +kernel
  exact hall c.toNat (Ranges.mem_codes_of_has h)

/-- The capitals of the basic Latin alphabet are the first letters of the table. -/
theorem isIdent_of_isCapital {c : Char} (h : isCapital c = true) : isIdent c = true := by
  rw [isCapital, Bool.and_eq_true, decide_eq_true_eq, decide_eq_true_eq] at h
  have hfirst : 0x41 ≤ c.toNat := h.1
  have hlast : c.toNat ≤ 0x5A := h.2
  have htable : alphabetic = (0x41, 0x5A) :: alphabetic.tail := rfl
  have hletter : alphabetic.has c.toNat = true := by
    rw [htable, Ranges.has, if_neg (Nat.not_lt.mpr hfirst), decide_eq_true hlast]
    rfl
  rw [isIdent, hletter]
  rfl

/-- In ASCII the words of the editor hold identifier characters only. -/
theorem isIdent_of_isWord {c : Char} (hascii : c.toNat < 128) (h : isWord c = true) :
    isIdent c = true := by
  have hall : ∀ n < 128, isWord (Char.ofNat n) = true → isIdent (Char.ofNat n) = true := by
    decide +kernel
  have hc := hall c.toNat hascii
  rw [Char.ofNat_toNat] at hc
  exact hc h

theorem isIdent_underscore : isIdent '_' = true := by decide +kernel

end OcamlAssist.Chars
