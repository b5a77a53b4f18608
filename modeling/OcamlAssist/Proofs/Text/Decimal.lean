-- The laws of numbers: a text is read as the number that its digits spell, with
-- or without a plus sign in front, and the decimal text of a number is read back
-- as the number, unless no machine word holds it.
import OcamlAssist.Text.Decimal

namespace OcamlAssist.Text

theorem digit?_of_isDigit {c : Char} (h : c.isDigit = true) :
    digit? c = some (c.toNat - '0'.toNat) := by
  rw [Char.isDigit, Bool.and_eq_true, decide_eq_true_eq, decide_eq_true_eq] at h
  exact if_pos h

theorem isDigit_of_digit? {c : Char} {digit : Nat} (h : digit? c = some digit) :
    c.isDigit = true := by
  unfold digit? at h
  split at h
  · rename_i hrange
    rw [Char.isDigit, Bool.and_eq_true, decide_eq_true_eq, decide_eq_true_eq]
    exact hrange
  · cases h

/-- A number only grows by the digits that are read onto it. -/
theorem le_ofDigitChars (text : List Char) (read : Nat) :
    read ≤ Nat.ofDigitChars 10 text read := by
  induction text generalizing read with
  | nil => exact Nat.le_refl read
  | cons c rest ih =>
    rw [Nat.ofDigitChars_cons]
    have := ih (10 * read + (c.toNat - '0'.toNat))
    omega

/-- Digits are read as the number that they spell. The number is too large as soon as its first
digits are. -/
theorem readDigits_eq {text : List Char} (h : ∀ c ∈ text, c.isDigit = true) {read : Nat}
    (hread : read < wordLimit) :
    readDigits read text =
      if Nat.ofDigitChars 10 text read < wordLimit then .ok (Nat.ofDigitChars 10 text read)
      else .error .tooLarge := by
  induction text generalizing read with
  | nil => exact (if_pos hread).symm
  | cons c rest ih =>
    have hdigit := digit?_of_isDigit (h c List.mem_cons_self)
    have hrest := fun x hx => h x (List.mem_cons_of_mem c hx)
    rw [readDigits, hdigit, Nat.ofDigitChars_cons, Nat.mul_comm 10 read]
    simp only
    split
    · rename_i hnext
      exact ih hrest hnext
    · rename_i hnext
      have hle := le_ofDigitChars rest (read * 10 + (c.toNat - '0'.toNat))
      rw [if_neg (by omega)]

theorem isDigit_of_readDigits {text : List Char} {read n : Nat} (h : readDigits read text = .ok n) :
    ∀ c ∈ text, c.isDigit = true := by
  induction text generalizing read with
  | nil => simp
  | cons c rest ih =>
    rw [readDigits] at h
    split at h
    · cases h
    · rename_i digit hdigit
      simp only at h
      split at h
      · exact List.forall_mem_cons.mpr ⟨isDigit_of_digit? hdigit, ih h⟩
      · cases h

/-- A text that begins with a digit has no sign. -/
theorem readNumber_of_isDigit {c : Char} (h : c.isDigit = true) (rest : List Char) :
    readNumber (c :: rest) = readDigits 0 (c :: rest) := by
  have hsign : c ≠ '+' := by
    rintro rfl
    exact absurd h (by decide)
  unfold readNumber
  split
  · rename_i htext
    exact absurd htext (List.cons_ne_nil c rest)
  · rename_i htext
    exact absurd (List.cons.inj htext).1 hsign
  · rename_i htext
    exact absurd (List.cons.inj htext).1 hsign
  · rfl

/-- One or more digits that stand for a number, with or without a plus sign in front. -/
def Spells (text : List Char) (n : Nat) : Prop :=
  ∃ digits, (text = digits ∨ text = '+' :: digits) ∧ digits ≠ [] ∧
    (∀ c ∈ digits, c.isDigit = true) ∧ Nat.ofDigitChars 10 digits 0 = n

/-- A text is read as the number that it spells, if a machine word holds it. -/
theorem readNumber_eq_ok_iff {text : List Char} {n : Nat} :
    readNumber text = .ok n ↔ Spells text n ∧ n < wordLimit := by
  have hdigits : ∀ digits, readDigits 0 digits = .ok n ↔
      (∀ c ∈ digits, c.isDigit = true) ∧ Nat.ofDigitChars 10 digits 0 = n ∧ n < wordLimit := by
    intro digits
    constructor
    · intro h
      have hall := isDigit_of_readDigits h
      rw [readDigits_eq hall (by decide)] at h
      split at h
      · rename_i hlimit
        obtain rfl := Except.ok.inj h
        exact ⟨hall, rfl, hlimit⟩
      · cases h
    · rintro ⟨hall, rfl, hlimit⟩
      rw [readDigits_eq hall (by decide), if_pos hlimit]
  constructor
  · fun_cases readNumber text with
    | case1 => exact nofun
    | case2 => exact nofun
    | case3 digits hne =>
      intro h
      obtain ⟨hall, hvalue, hlimit⟩ := (hdigits digits).mp h
      exact ⟨⟨digits, Or.inr rfl, hne, hall, hvalue⟩, hlimit⟩
    | case4 _ hne =>
      intro h
      obtain ⟨hall, hvalue, hlimit⟩ := (hdigits text).mp h
      exact ⟨⟨text, Or.inl rfl, hne, hall, hvalue⟩, hlimit⟩
  · rintro ⟨⟨digits, htext, hne, hall, hvalue⟩, hlimit⟩
    obtain ⟨c, rest, rfl⟩ := List.exists_cons_of_ne_nil hne
    have hread := (hdigits (c :: rest)).mpr ⟨hall, hvalue, hlimit⟩
    rcases htext with rfl | rfl
    · rw [readNumber_of_isDigit (hall c List.mem_cons_self), hread]
    · exact hread

/-! ## The decimal text of a number -/

theorem toList_toString (n : Nat) : (toString n).toList = Nat.toDigits 10 n := by
  rw [Nat.toString_eq_repr, Nat.toList_repr]

theorem isDigit_of_mem_toDigits {n : Nat} {c : Char} (h : c ∈ Nat.toDigits 10 n) :
    c.isDigit = true :=
  Nat.isDigit_of_mem_toDigits (by decide) (by decide) h

theorem colon_not_mem_toString (n : Nat) : ':' ∉ (toString n).toList := by
  rw [toList_toString]
  exact fun h => absurd (isDigit_of_mem_toDigits h) (by decide)

/-- The decimal text of a number is read as the number, if a machine word holds it. -/
theorem readNumber_toString (n : Nat) :
    readNumber (toString n).toList = if n < wordLimit then .ok n else .error .tooLarge := by
  have hdigits : ∀ c ∈ Nat.toDigits 10 n, c.isDigit = true := fun _ => isDigit_of_mem_toDigits
  have hvalue : Nat.ofDigitChars 10 (Nat.toDigits 10 n) 0 = n := Nat.ofDigitChars_ten_toDigits
  rw [toList_toString]
  cases htext : Nat.toDigits 10 n with
  | nil => exact absurd htext Nat.toDigits_ne_nil
  | cons c rest =>
    rw [htext] at hdigits hvalue
    rw [readNumber_of_isDigit (hdigits c List.mem_cons_self), readDigits_eq hdigits (by decide),
      hvalue]

end OcamlAssist.Text
