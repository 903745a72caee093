/-!
# Latin-1 text

One byte for one character: byte `b` stands for the code point `b`. Every byte string has a text;
a text has bytes of its own exactly when it stays below U+0100, and a character outside that range
is written as a question mark. Bytes survive the trip through text (`encode_decode`), and a text comes
back from its bytes with question marks in it (`decode_encode`).
-/

namespace BatchStringify.Latin1

/-- The character that a byte stands for. -/
def char (b : UInt8) : Char := Char.ofNat b.toNat

/-- The byte of a character, a question mark for one that has none. -/
def byte (c : Char) : UInt8 := if c.toNat ≤ 0xFF then UInt8.ofNat c.toNat else 0x3F

/-- The text of a byte string. -/
def decode (bytes : List UInt8) : String := String.ofList (bytes.map char)

/-- The bytes of a text, one a character. -/
def encode (text : String) : List UInt8 := text.toList.map byte

/-- A character as its byte shows it: itself, or a question mark if it has no byte. -/
def shown (c : Char) : Char := if c.toNat ≤ 0xFF then c else '?'

/-- A text as its bytes show it. -/
def legible (text : String) : String := String.ofList (text.toList.map shown)

theorem toNat_char (b : UInt8) : (char b).toNat = b.toNat := by
  have h : b.toNat < 256 := b.toNat_lt
  have hv : b.toNat.isValidChar := Or.inl (by omega)
  rw [char, Char.ofNat, dif_pos hv]
  rfl

theorem byte_char (b : UInt8) : byte (char b) = b := by
  have h : b.toNat < 256 := b.toNat_lt
  have h' : b.toNat ≤ 0xFF := by omega
  simp [byte, toNat_char, h']

/-- Bytes survive the trip through text. -/
theorem encode_decode (bytes : List UInt8) : encode (decode bytes) = bytes := by
  simp [encode, decode, Function.comp_def, byte_char]

theorem char_byte (c : Char) : char (byte c) = shown c := by
  unfold byte shown
  split
  · rename_i h
    have hc : (UInt8.ofNat c.toNat).toNat = c.toNat := by
      rw [UInt8.toNat_ofNat']
      omega
    rw [char, hc, Char.ofNat_toNat]
  · rfl

theorem byte_shown (c : Char) : byte (shown c) = byte c := by
  rw [← char_byte, byte_char]

/-- A text comes back from its bytes with a question mark for each character without a byte. -/
theorem decode_encode (text : String) : decode (encode text) = legible text := by
  simp [decode, encode, legible, Function.comp_def, char_byte]

theorem encode_legible (text : String) : encode (legible text) = encode text := by
  simp [encode, legible, Function.comp_def, byte_shown]

@[simp] theorem length_encode (text : String) : (encode text).length = text.toList.length := by
  simp [encode]

end BatchStringify.Latin1
