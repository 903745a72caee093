import BatchStringify.Proofs.RoundTrip

/-!
# Replies have one spelling

Reading keeps all that the bytes say: whatever bytes are accepted, writing the entries that were read
gives the same bytes again (`canonical_bytes`). So no two replies mean the same entries, whoever wrote them.
It takes a reply of 2 GiB to spoil this: there a length field can be the smallest number, which has no
counterpart, and the message that it tells of is longer than any that is written.
-/

namespace BatchStringify.Reply

/-! ## Length fields -/

theorem word_lt (b₃ b₂ b₁ b₀ : UInt8) : word b₃ b₂ b₁ b₀ < 0x100000000 := by
  have h₃ := b₃.toNat_lt
  have h₂ := b₂.toNat_lt
  have h₁ := b₁.toNat_lt
  have h₀ := b₀.toNat_lt
  unfold word
  omega

/-- Four bytes are the bytes of the number that they spell. -/
theorem wordBytes_word (b₃ b₂ b₁ b₀ : UInt8) : wordBytes (word b₃ b₂ b₁ b₀) = [b₃, b₂, b₁, b₀] := by
  have h₃ := b₃.toNat_lt
  have h₂ := b₂.toNat_lt
  have h₁ := b₁.toNat_lt
  have h₀ := b₀.toNat_lt
  unfold wordBytes word
  simp only [List.cons.injEq, and_true, ← UInt8.toNat_inj, UInt8.toNat_ofNat']
  omega

/-- A length field is determined by its sign and its magnitude, unless it is the smallest number. -/
theorem lengthField_magnitude {field : Nat} (h : field < 0x100000000)
    (tellable : magnitude field ≤ maxLength) :
    lengthField (isNegative field) (magnitude field) = field := by
  unfold magnitude maxLength at tellable
  unfold lengthField magnitude
  cases hn : isNegative field with
  | false => simp
  | true =>
    rw [hn] at tellable
    simp only [isNegative, decide_eq_true_eq] at hn
    simp only [if_true] at tellable ⊢
    omega

/-! ## Replies -/

/-- The bytes of an entry that was read are those that it was read from. -/
theorem encode_of_read {field : Nat} {text : List UInt8} (h : field < 0x100000000)
    (length : text.length = magnitude field) (short : text.length ≤ maxLength) :
    Entry.encode ⟨isNegative field, Latin1.decode text⟩ = wordBytes field ++ text := by
  have hfield : lengthField (isNegative field) text.length = field := by
    rw [length]
    exact lengthField_magnitude h (length ▸ short)
  unfold Entry.encode
  simp only [Latin1.encode_decode, List.take_of_length_le short, hfield]

/-- Entries that were read from some place on have the bytes that stand there. -/
theorem encode_of_decodeFrom {offset : Nat} {bytes : List UInt8} {entries : List Entry}
    (short : bytes.length ≤ maxLength) (accepted : decodeFrom offset bytes = .ok entries) :
    encode entries = bytes := by
  fun_induction decodeFrom offset bytes generalizing entries with
  | case1 offset =>
    cases accepted
    rfl
  | case2 offset b₃ b₂ b₁ b₀ rest field length fits later hlater =>
    rename_i ih
    cases accepted
    have hrest : rest.length ≤ maxLength := by
      simp only [List.length_cons] at short
      omega
    have hdrop : (rest.drop length).length ≤ maxLength := by
      rw [List.length_drop]
      omega
    have htake : (rest.take length).length = length := List.length_take_of_le fits
    have hfirst : Entry.encode ⟨isNegative field, Latin1.decode (rest.take length)⟩ =
        [b₃, b₂, b₁, b₀] ++ rest.take length := by
      rw [encode_of_read (word_lt b₃ b₂ b₁ b₀) htake (Nat.le_trans (List.length_take_le' _ _) hrest),
        wordBytes_word]
    calc encode (⟨isNegative field, Latin1.decode (rest.take length)⟩ :: later)
      _ = [b₃, b₂, b₁, b₀] ++ rest.take length ++ encode later := congrArg (· ++ _) hfirst
      _ = [b₃, b₂, b₁, b₀] ++ (rest.take length ++ rest.drop length) := by
        rw [ih hdrop hlater, List.append_assoc]
      _ = b₃ :: b₂ :: b₁ :: b₀ :: rest := by
        rw [List.take_append_drop]
        rfl
  | _ => cases accepted

/-- The entries of an accepted reply below 2 GiB have its bytes again, and no other reply below 2 GiB has
the same entries. -/
theorem canonical_bytes (bytes : List UInt8) (short : bytes.length < 0x80000000) :
    (∀ entries, decode bytes = .ok entries → encode entries = bytes) ∧
    ∀ other entries, other.length < 0x80000000 → decode bytes = .ok entries →
      decode other = .ok entries → other = bytes := by
  have hcanonical : ∀ {bytes : List UInt8} {entries : List Entry}, bytes.length < 0x80000000 →
      decode bytes = .ok entries → encode entries = bytes :=
    fun hshort accepted => encode_of_decodeFrom (Nat.le_of_lt_succ hshort) accepted
  refine ⟨fun entries accepted => hcanonical short accepted, ?_⟩
  intro other entries hother accepted haccepted
  rw [← hcanonical short accepted, hcanonical hother haccepted]

/-- An empty entry, an exception with a message of two bytes, and a text of one byte. -/
def foreignBytes : List UInt8 :=
  [0, 0, 0, 0, 0xFF, 0xFF, 0xFF, 0xFE, 0x4E, 0xE9, 0, 0, 0, 1, 0x78]

theorem canonical_bytes_foreignBytes :
    decode foreignBytes = .ok [.success "", .failure "N\u00e9", .success "x"] ∧
    encode [.success "", .failure "N\u00e9", .success "x"] = foreignBytes ∧
    ∀ other, other.length < 0x80000000 → decode other = decode foreignBytes →
      other = foreignBytes := by
  have hspelled : encode [.success "", .failure "N\u00e9", .success "x"] = foreignBytes := by decide
  have hread : decode foreignBytes = .ok [.success "", .failure "N\u00e9", .success "x"] :=
    hspelled ▸ decode_encode [.success "", .failure "N\u00e9", .success "x"]
  obtain ⟨hcanonical, hinjective⟩ := canonical_bytes foreignBytes (by decide)
  refine ⟨hread, hcanonical _ hread, fun other short h => ?_⟩
  exact hinjective other _ short hread (h.trans hread)

end BatchStringify.Reply
