import BatchStringify.Reply.Codec

/-!
# What comes back of a reply

Entries that are written to bytes and read again come back one for one and in their order
(`decode_encode`). Each has gone through the bytes of its message: characters without a byte are
question marks, a message too long for its length field is cut off, and an error without a message has
become an empty success. Nothing more is lost on a second trip: entries as they come back have the bytes
that the entries had in the beginning (`decode_encode_normal`).
-/

namespace BatchStringify.Reply

/-- An entry as it is read after it was written. -/
def Entry.received (entry : Entry) : Entry :=
  let text := (Latin1.encode entry.message).take maxLength
  ⟨entry.isError && !text.isEmpty, Latin1.decode text⟩

/-! ## Length fields -/

/-- A number of 32 bits is put together again from its four bytes. -/
theorem word_of_lt {n : Nat} (h : n < 0x100000000) :
    word (UInt8.ofNat (n / 0x1000000)) (UInt8.ofNat (n / 0x10000)) (UInt8.ofNat (n / 0x100))
      (UInt8.ofNat n) = n := by
  simp only [word, UInt8.toNat_ofNat']
  omega

variable (isError : Bool) {n : Nat}

theorem lengthField_lt (h : n ≤ maxLength) : lengthField isError n < 0x100000000 := by
  unfold lengthField
  unfold maxLength at h
  split <;> omega

/-- The field of an error is negative unless its message is empty. -/
theorem isNegative_lengthField (h : n ≤ maxLength) :
    isNegative (lengthField isError n) = (isError && decide (n ≠ 0)) := by
  unfold maxLength at h
  cases isError with
  | false => simpa [isNegative, lengthField] using by omega
  | true =>
    by_cases hn : n = 0
    · simp [isNegative, lengthField, hn]
    · have hmod : (0x100000000 - n) % 0x100000000 = 0x100000000 - n := Nat.mod_eq_of_lt (by omega)
      simp [isNegative, lengthField, hmod, hn]
      omega

/-- The length of an entry comes back from its field, with the mark of an error or without. -/
theorem magnitude_lengthField (h : n ≤ maxLength) : magnitude (lengthField isError n) = n := by
  have hn := isNegative_lengthField isError h
  unfold maxLength at h
  unfold magnitude
  rw [hn]
  cases isError with
  | false => rfl
  | true =>
    by_cases h0 : n = 0
    · simp [h0, lengthField]
    · simp only [h0, lengthField, ne_eq, not_false_eq_true, decide_true, Bool.and_self, if_true]
      omega

/-! ## Entries -/

/-- The first entry of a reply is read as it was written, and reading goes on behind it. -/
theorem decodeFrom_append (entry : Entry) (rest : List UInt8) (offset : Nat) :
    ∃ next, decodeFrom offset (entry.encode ++ rest) =
      (decodeFrom next rest).map (entry.received :: ·) := by
  have hlength : ((Latin1.encode entry.message).take maxLength).length ≤ maxLength :=
    List.length_take_le _ _
  unfold Entry.received Entry.encode
  dsimp only
  generalize (Latin1.encode entry.message).take maxLength = text at hlength ⊢
  have hword := word_of_lt (lengthField_lt entry.isError hlength)
  have hnegative := isNegative_lengthField entry.isError hlength
  have hmagnitude := magnitude_lengthField entry.isError hlength
  have hempty : (!text.isEmpty) = decide (text.length ≠ 0) := by cases text <;> rfl
  refine ⟨offset + 4 + text.length, ?_⟩
  rw [List.append_assoc, wordBytes]
  simp only [List.cons_append, List.nil_append]
  rw [decodeFrom]
  simp only [hword, hnegative, hmagnitude, hempty, List.length_append, Nat.le_add_right, if_true,
    List.take_left, List.drop_left]
  cases decodeFrom (offset + 4 + text.length) rest <;> rfl

/-- A reply is read from any offset as it was written. -/
theorem decodeFrom_encode (entries : List Entry) (offset : Nat) :
    decodeFrom offset (encode entries) = .ok (entries.map Entry.received) := by
  induction entries generalizing offset with
  | nil => simp [encode, decodeFrom]
  | cons entry rest ih =>
    obtain ⟨next, hnext⟩ := decodeFrom_append entry (encode rest) offset
    rw [ih next] at hnext
    exact hnext

/-- A reply that was written is read without a fault: one entry comes back for each. -/
theorem decode_encode (entries : List Entry) :
    decode (encode entries) = .ok (entries.map Entry.received) :=
  decodeFrom_encode entries 0

/-! ## Normal entries -/

/-- An entry whose message is as its bytes show it; an error without a message is an empty success. -/
def Entry.normal (entry : Entry) : Entry :=
  ⟨entry.isError && !entry.message.isEmpty, Latin1.legible entry.message⟩

namespace Entry

/-- Nothing is cut off a message that its length field can tell. -/
theorem received_eq_normal {entry : Entry} (h : entry.message.length ≤ maxLength) :
    entry.received = entry.normal := by
  have htake : (Latin1.encode entry.message).take maxLength = Latin1.encode entry.message := by
    rw [List.take_of_length_le]
    rwa [Latin1.length_encode, String.length_toList]
  have hempty : (Latin1.encode entry.message).isEmpty = entry.message.isEmpty := by
    rw [Bool.eq_iff_iff, List.isEmpty_iff, String.isEmpty_iff, Latin1.encode, List.map_eq_nil_iff,
      String.toList_eq_nil_iff]
  simp only [received, normal, htake, hempty, Latin1.decode_encode]

/-- An entry is written like its normal form. -/
theorem encode_normal (entry : Entry) : entry.normal.encode = entry.encode := by
  have htext : Latin1.encode entry.normal.message = Latin1.encode entry.message :=
    Latin1.encode_legible _
  have hfield : lengthField entry.normal.isError ((Latin1.encode entry.message).take maxLength).length =
      lengthField entry.isError ((Latin1.encode entry.message).take maxLength).length := by
    cases hempty : entry.message.isEmpty with
    | false => rw [normal, hempty, Bool.not_false, Bool.and_true]
    | true =>
      -- zero has no sign
      rw [String.isEmpty_iff] at hempty
      cases hsign : entry.isError <;> simp [normal, hempty, hsign, lengthField, Latin1.encode]
  unfold encode
  rw [htext]
  exact congrArg (wordBytes · ++ _) hfield

theorem length_normal (entry : Entry) : entry.normal.message.length = entry.message.length := by
  simp [normal, Latin1.legible, String.length_toList]

end Entry

/-- Entries with messages that a length field can tell are read back as their normal entries, one for
one and in their order, also if their bytes travel as a text. The normal entries have the same bytes,
so a second trip changes nothing. -/
theorem decode_encode_normal (entries : List Entry)
    (short : ∀ entry ∈ entries, entry.message.length < 0x80000000) :
    decode (encode entries) = .ok (entries.map Entry.normal) ∧
    (∀ bytes, Latin1.encode (Latin1.decode bytes) = bytes) ∧
    decode (Latin1.encode (Latin1.decode (encode entries))) = .ok (entries.map Entry.normal) ∧
    encode (entries.map Entry.normal) = encode entries ∧
    (entries.map Entry.normal).map Entry.normal = entries.map Entry.normal ∧
    decode (encode (entries.map Entry.normal)) = .ok (entries.map Entry.normal) := by
  have hreceived : entries.map Entry.received = entries.map Entry.normal :=
    List.map_congr_left fun entry he =>
      Entry.received_eq_normal (Nat.le_of_lt_succ (short entry he))
  have hdecode : decode (encode entries) = .ok (entries.map Entry.normal) := by
    rw [decode_encode, hreceived]
  have hencode : encode (entries.map Entry.normal) = encode entries := by
    simp only [encode, List.flatMap_map, Entry.encode_normal]
  have hagain : (entries.map Entry.normal).map Entry.received =
      (entries.map Entry.normal).map Entry.normal := by
    rw [List.map_map, List.map_map]
    refine List.map_congr_left fun entry he => Entry.received_eq_normal ?_
    rw [Entry.length_normal]
    exact Nat.le_of_lt_succ (short entry he)
  have hsecond := decode_encode (entries.map Entry.normal)
  rw [hencode, hdecode, hagain, Except.ok.injEq] at hsecond
  refine ⟨hdecode, Latin1.encode_decode, ?_, hencode, hsecond.symm, ?_⟩
  · rw [Latin1.encode_decode, hdecode]
  · rw [hencode, hdecode]

/-- An error without a message, a text with a character that has no byte, and an exception. -/
def threeEntries : List Entry := [.failure "", .success "caf\u00e9 \u20ac", .failure "NPE"]

theorem decode_encode_normal_threeEntries :
    decode (encode threeEntries) =
      .ok [.success "", .success "caf\u00e9 ?", .failure "NPE"] ∧
    encode [.success "", .success "caf\u00e9 ?", .failure "NPE"] = encode threeEntries := by
  obtain ⟨hdecode, -, -, hencode, -⟩ := decode_encode_normal threeEntries (by decide)
  exact ⟨hdecode, hencode⟩

end BatchStringify.Reply
