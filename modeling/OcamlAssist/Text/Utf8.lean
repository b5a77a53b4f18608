-- Bytes and text. Decoding cuts bytes into units: each unit is one character
-- or one ill-formed stretch, which is a start of a character that nothing
-- completes. A strict reader refuses ill-formed stretches, a lenient one
-- shows each of them as one replacement character.
namespace OcamlAssist.Text

abbrev Bytes := List UInt8

/-- What the first byte of a character of several bytes asks of the bytes after it. -/
structure Lead where
  more : Nat
  value : Nat
  low : UInt8
  high : UInt8

/-- Reads a first byte. The bounds on the second byte keep out spellings that are longer than
they need to be, surrogates and numbers past the last code point. -/
def lead? (byte : UInt8) : Option Lead :=
  if byte < 0x80 then some ⟨0, byte.toNat, 0x80, 0xBF⟩
  else if byte < 0xC2 then none
  else if byte < 0xE0 then some ⟨1, byte.toNat - 0xC0, 0x80, 0xBF⟩
  else if byte == 0xE0 then some ⟨2, 0, 0xA0, 0xBF⟩
  else if byte == 0xED then some ⟨2, 0xD, 0x80, 0x9F⟩
  else if byte < 0xF0 then some ⟨2, byte.toNat - 0xE0, 0x80, 0xBF⟩
  else if byte == 0xF0 then some ⟨3, 0, 0x90, 0xBF⟩
  else if byte < 0xF4 then some ⟨3, byte.toNat - 0xF0, 0x80, 0xBF⟩
  else if byte == 0xF4 then some ⟨3, 4, 0x80, 0x8F⟩
  else none

/-- Takes the bytes that complete a character, as far as they do. -/
def complete : (more value : Nat) → (low high : UInt8) → Bytes → Option Nat × Bytes
  | 0, value, _, _, rest => (some value, rest)
  | _ + 1, _, _, _, [] => (none, [])
  | more + 1, value, low, high, byte :: rest =>
    if low ≤ byte && byte ≤ high then
      complete more (value * 64 + byte.toNat % 64) 0x80 0xBF rest
    else (none, byte :: rest)

theorem length_complete_le (more value : Nat) (low high : UInt8) (bytes : Bytes) :
    (complete more value low high bytes).2.length ≤ bytes.length := by
  fun_induction complete more value low high bytes with
  | case1 => simp
  | case2 => simp
  | case3 _ _ _ _ _ _ _ ih => simp only [List.length_cons]; omega
  | case4 => simp

/-- The units of bytes, a character each, or nothing for an ill-formed stretch. -/
def units : Bytes → List (Option Char)
  | [] => []
  | byte :: rest =>
    match lead? byte with
    | none => none :: units rest
    | some ⟨more, value, low, high⟩ =>
      (complete more value low high rest).1.map Char.ofNat ::
        units (complete more value low high rest).2
  termination_by bytes => bytes.length
  decreasing_by
    · simp
    · exact Nat.lt_succ_of_le (length_complete_le ..)

def decode? (bytes : Bytes) : Option (List Char) := (units bytes).mapM id

/-- The text of any bytes, with a replacement character for each ill-formed stretch. -/
def decodeLenient (bytes : Bytes) : List Char := (units bytes).map (·.getD '\uFFFD')

def encode (text : List Char) : Bytes := text.flatMap String.utf8EncodeChar

end OcamlAssist.Text
