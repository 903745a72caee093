import BatchStringify.Reply.Entry
import BatchStringify.Text.Latin1

/-!
# The byte form of a reply

Entries follow each other without separators. An entry is a length field of four bytes, most
significant byte first, and then the Latin-1 bytes of its message. The field is a signed number in
two's complement: its magnitude is the number of message bytes, and a negative sign marks an error.
An empty error therefore has the field of an empty success and reads back as one. A message with more
bytes than the field can tell is cut off.

Reading stops at the first place where the bytes run out, and then nothing is returned.
-/

namespace BatchStringify.Reply

/-- The number that four bytes spell, most significant first. -/
def word (b₃ b₂ b₁ b₀ : UInt8) : Nat :=
  ((b₃.toNat * 256 + b₂.toNat) * 256 + b₁.toNat) * 256 + b₀.toNat

/-- The four bytes of a number below 2³², most significant first. -/
def wordBytes (n : Nat) : List UInt8 :=
  [UInt8.ofNat (n / 0x1000000), UInt8.ofNat (n / 0x10000), UInt8.ofNat (n / 0x100), UInt8.ofNat n]

/-- Whether a length field is negative. -/
def isNegative (field : Nat) : Bool := decide (0x80000000 ≤ field)

/-- The magnitude of a length field: the number of message bytes that follow it. -/
def magnitude (field : Nat) : Nat := if isNegative field then 0x100000000 - field else field

/-- The length field for `n` bytes of message, negated for an error. -/
def lengthField (isError : Bool) (n : Nat) : Nat :=
  if isError then (0x100000000 - n) % 0x100000000 else n

/-- The longest message that a length field can tell. -/
def maxLength : Nat := 0x7FFFFFFF

/-- The bytes of one entry. -/
def Entry.encode (entry : Entry) : List UInt8 :=
  let text := (Latin1.encode entry.message).take maxLength
  wordBytes (lengthField entry.isError text.length) ++ text

/-- The bytes of a reply. -/
def encode (entries : List Entry) : List UInt8 := entries.flatMap Entry.encode

/-- Where and how a reply breaks off. -/
inductive Malformed where
  /-- Fewer than four bytes are left where a length field should stand. -/
  | truncatedLength (offset remaining : Nat)
  /-- The entry starting at `offset` has fewer message bytes than its length field says. -/
  | truncatedEntry (offset length remaining : Nat)
  deriving DecidableEq, Repr

/-- The wording of a malformed reply. -/
def Malformed.message : Malformed → String
  | .truncatedLength offset remaining =>
    "truncated length field at offset " ++ toString offset ++ ": " ++ toString remaining ++
      " bytes left"
  | .truncatedEntry offset length remaining =>
    "entry at offset " ++ toString offset ++ " declares " ++ toString length ++
      " bytes but only " ++ toString remaining ++ " remain"

/-- The entries of the bytes from `offset` on. -/
def decodeFrom (offset : Nat) : List UInt8 → Except Malformed (List Entry)
  | [] => .ok []
  | b₃ :: b₂ :: b₁ :: b₀ :: rest =>
    let field := word b₃ b₂ b₁ b₀
    let length := magnitude field
    if length ≤ rest.length then
      match decodeFrom (offset + 4 + length) (rest.drop length) with
      | .ok entries => .ok (⟨isNegative field, Latin1.decode (rest.take length)⟩ :: entries)
      | .error fault => .error fault
    else .error (.truncatedEntry offset length rest.length)
  | short => .error (.truncatedLength offset short.length)
termination_by bytes => bytes.length
decreasing_by simp only [List.length_drop, List.length_cons]; omega

/-- The entries of a reply: all of them, or the first place where it breaks off. -/
def decode (bytes : List UInt8) : Except Malformed (List Entry) := decodeFrom 0 bytes

end BatchStringify.Reply
