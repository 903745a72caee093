import BatchStringify.Proofs.Canonical

/-!
# The grammar of a reply

The byte strings that are replies, told without a reader: `Spells bytes entries` says that the bytes are
entries behind each other, each a signed number of four bytes and as many bytes of text as its
magnitude says. `Breaks offset bytes fault` says that no entry stands at `offset`, and why.

Reading is this grammar. The bytes that are read without a fault are the ones that spell entries
(`decodeFrom_eq_ok_iff`), and a fault tells the end of the entries in front of it and what is wrong
there (`decodeFrom_eq_error_iff`). What is read of two byte strings behind each other is read of one and
then of the other (`decode_append`).
-/

namespace BatchStringify.Reply

/-! ## Length fields as signed numbers -/

section Signed

variable (b₃ b₂ b₁ b₀ : UInt8)

/-- The number that four bytes spell in two's complement, most significant first. -/
def signed : Int :=
  (b₃.toBitVec ++ b₂.toBitVec ++ b₁.toBitVec ++ b₀.toBitVec).toInt

theorem toNat_append_bytes :
    (b₃.toBitVec ++ b₂.toBitVec ++ b₁.toBitVec ++ b₀.toBitVec).toNat = word b₃ b₂ b₁ b₀ := by
  have h₂ := b₂.toNat_lt
  have h₁ := b₁.toNat_lt
  have h₀ := b₀.toNat_lt
  simp only [BitVec.toNat_append, UInt8.toNat_toBitVec]
  rw [← Nat.shiftLeft_add_eq_or_of_lt h₂, ← Nat.shiftLeft_add_eq_or_of_lt h₁,
    ← Nat.shiftLeft_add_eq_or_of_lt h₀]
  simp only [Nat.shiftLeft_eq, word]

theorem signed_eq :
    signed b₃ b₂ b₁ b₀ =
      if isNegative (word b₃ b₂ b₁ b₀) then (word b₃ b₂ b₁ b₀ : Int) - 0x100000000
      else (word b₃ b₂ b₁ b₀ : Int) := by
  unfold signed isNegative
  rw [BitVec.toInt_eq_toNat_cond, toNat_append_bytes]
  by_cases h : 0x80000000 ≤ word b₃ b₂ b₁ b₀
  · rw [if_neg (by omega), if_pos (by simpa using h)]
    rfl
  · rw [if_pos (by omega), if_neg (by simpa using h)]

/-- A length field is negative as a signed number. -/
theorem isNegative_word : isNegative (word b₃ b₂ b₁ b₀) = decide (signed b₃ b₂ b₁ b₀ < 0) := by
  have hlt := word_lt b₃ b₂ b₁ b₀
  rw [signed_eq]
  cases h : isNegative (word b₃ b₂ b₁ b₀) with
  | true => simpa using by omega
  | false => simp

/-- The magnitude of a length field is that of the signed number. -/
theorem magnitude_word : magnitude (word b₃ b₂ b₁ b₀) = (signed b₃ b₂ b₁ b₀).natAbs := by
  have hlt := word_lt b₃ b₂ b₁ b₀
  rw [signed_eq]
  unfold magnitude
  split <;> omega

/-- An entry is never longer than 2³¹ bytes. -/
theorem natAbs_signed_le : (signed b₃ b₂ b₁ b₀).natAbs ≤ 0x80000000 := by
  have hlt := word_lt b₃ b₂ b₁ b₀
  rw [← magnitude_word]
  unfold magnitude isNegative
  split
  · next h => simp at h; omega
  · next h => simp at h; omega

end Signed

/-! ## The grammar -/

/-- The bytes are entries behind each other. -/
inductive Spells : List UInt8 → List Entry → Prop where
  | nil : Spells [] []
  /-- A length field, as many bytes of text as it says, and the entries behind them. -/
  | cons (b₃ b₂ b₁ b₀ : UInt8) {text rest : List UInt8} {entries : List Entry}
      (hlength : text.length = (signed b₃ b₂ b₁ b₀).natAbs) (hrest : Spells rest entries) :
      Spells (b₃ :: b₂ :: b₁ :: b₀ :: (text ++ rest))
        (⟨decide (signed b₃ b₂ b₁ b₀ < 0), Latin1.decode text⟩ :: entries)

/-- No entry stands at an offset, where these bytes are left. -/
inductive Breaks (offset : Nat) : List UInt8 → Malformed → Prop where
  /-- Too few bytes for a length field. -/
  | length {rest : List UInt8} (hpos : 1 ≤ rest.length) (hshort : rest.length ≤ 3) :
      Breaks offset rest (.truncatedLength offset rest.length)
  /-- Fewer bytes behind the length field than it says. -/
  | entry (b₃ b₂ b₁ b₀ : UInt8) {text : List UInt8}
      (hshort : text.length < (signed b₃ b₂ b₁ b₀).natAbs) :
      Breaks offset (b₃ :: b₂ :: b₁ :: b₀ :: text)
        (.truncatedEntry offset (signed b₃ b₂ b₁ b₀).natAbs text.length)

/-! ## Reading along the grammar -/

/-- An entry is read, and reading goes on behind it. -/
theorem decodeFrom_entry (offset : Nat) (b₃ b₂ b₁ b₀ : UInt8) {text : List UInt8}
    (hlength : text.length = (signed b₃ b₂ b₁ b₀).natAbs) (rest : List UInt8) :
    decodeFrom offset (b₃ :: b₂ :: b₁ :: b₀ :: (text ++ rest)) =
      (decodeFrom (offset + (4 + text.length)) rest).map
        (⟨decide (signed b₃ b₂ b₁ b₀ < 0), Latin1.decode text⟩ :: ·) := by
  have hfits : text.length ≤ (text ++ rest).length := by simp
  rw [decodeFrom, magnitude_word, isNegative_word, ← hlength]
  simp only [if_pos hfits, List.take_left, List.drop_left, Nat.add_assoc]
  cases decodeFrom (offset + (4 + text.length)) rest <;> rfl

/-- The entries of the bytes in front are read, and reading goes on behind them. -/
theorem Spells.decodeFrom_append {front : List UInt8} {entries : List Entry}
    (h : Spells front entries) (offset : Nat) (more : List UInt8) :
    decodeFrom offset (front ++ more) =
      (decodeFrom (offset + front.length) more).map (entries ++ ·) := by
  induction h generalizing offset with
  | nil =>
    simp only [List.nil_append, List.length_nil, Nat.add_zero]
    cases decodeFrom offset more <;> rfl
  | @cons b₃ b₂ b₁ b₀ text rest entries hlength _ ih =>
    have hbehind : offset + (4 + text.length) + rest.length =
        offset + (b₃ :: b₂ :: b₁ :: b₀ :: (text ++ rest)).length := by
      simp only [List.length_cons, List.length_append]
      omega
    simp only [List.cons_append, List.append_assoc]
    rw [decodeFrom_entry offset b₃ b₂ b₁ b₀ hlength, ih, hbehind]
    cases decodeFrom (offset + (b₃ :: b₂ :: b₁ :: b₀ :: (text ++ rest)).length) more <;> rfl

/-- Reading stops where no entry stands. -/
theorem Breaks.decodeFrom_eq {offset : Nat} {rest : List UInt8} {fault : Malformed}
    (h : Breaks offset rest fault) : decodeFrom offset rest = .error fault := by
  cases h with
  | length hpos hshort =>
    match rest, hpos, hshort with
    | [_], _, _ => simp [decodeFrom]
    | [_, _], _, _ => simp [decodeFrom]
    | [_, _, _], _, _ => simp [decodeFrom]
  | entry b₃ b₂ b₁ b₀ hshort =>
    rw [decodeFrom, magnitude_word]
    simp only [if_neg (Nat.not_le.mpr hshort)]

/-- No entry stands at an offset from which one cannot be read. -/
theorem breaks_or_entry (rest : List UInt8) :
    rest = [] ∨ (∀ offset, ∃ fault, Breaks offset rest fault) ∨
      ∃ b₃ b₂ b₁ b₀ text later, rest = b₃ :: b₂ :: b₁ :: b₀ :: (text ++ later) ∧
        text.length = (signed b₃ b₂ b₁ b₀).natAbs := by
  match rest with
  | [] => exact .inl rfl
  | [_] | [_, _] | [_, _, _] =>
    exact .inr (.inl fun _ => ⟨_, .length (by simp) (by simp)⟩)
  | b₃ :: b₂ :: b₁ :: b₀ :: tail =>
    right
    by_cases hfits : (signed b₃ b₂ b₁ b₀).natAbs ≤ tail.length
    · refine .inr ⟨b₃, b₂, b₁, b₀, tail.take (signed b₃ b₂ b₁ b₀).natAbs,
        tail.drop (signed b₃ b₂ b₁ b₀).natAbs, ?_, List.length_take_of_le hfits⟩
      rw [List.take_append_drop]
    · exact .inl fun _ => ⟨_, .entry b₃ b₂ b₁ b₀ (Nat.not_le.mp hfits)⟩

/-- Any bytes are entries with nothing behind them, or with a place behind them where none stands. -/
theorem exists_spells (bytes : List UInt8) :
    ∃ front rest entries, bytes = front ++ rest ∧ Spells front entries ∧
      (rest = [] ∨ ∀ offset, ∃ fault, Breaks offset rest fault) := by
  induction hn : bytes.length using Nat.strongRecOn generalizing bytes with
  | ind n ih =>
    obtain hnil | hbreaks | ⟨b₃, b₂, b₁, b₀, text, later, rfl, hlength⟩ := breaks_or_entry bytes
    · exact ⟨[], bytes, [], rfl, .nil, .inl hnil⟩
    · exact ⟨[], bytes, [], rfl, .nil, .inr hbreaks⟩
    · have hshorter : later.length < n := by
        rw [← hn]
        simp only [List.length_cons, List.length_append]
        omega
      obtain ⟨front, rest, entries, rfl, hspells, hrest⟩ := ih later.length hshorter later rfl
      refine ⟨_, rest, _, ?_, .cons b₃ b₂ b₁ b₀ hlength hspells, hrest⟩
      simp only [List.cons_append, List.append_assoc]

/-- The bytes that are read without a fault are those that spell entries. -/
theorem decodeFrom_eq_ok_iff {offset : Nat} {bytes : List UInt8} {entries : List Entry} :
    decodeFrom offset bytes = .ok entries ↔ Spells bytes entries := by
  constructor
  · intro hread
    obtain ⟨front, rest, found, rfl, hspells, hrest⟩ := exists_spells bytes
    rw [hspells.decodeFrom_append] at hread
    obtain rfl | hbreaks := hrest
    · rw [decodeFrom] at hread
      cases hread
      simpa using hspells
    · obtain ⟨fault, hfault⟩ := hbreaks (offset + front.length)
      rw [hfault.decodeFrom_eq] at hread
      cases hread
  · intro hspells
    have hread := hspells.decodeFrom_append offset []
    rw [List.append_nil, decodeFrom] at hread
    simpa [Except.map] using hread

/-- A fault tells where the entries in front of it end, and what is wrong with the bytes there. -/
theorem decodeFrom_eq_error_iff {offset : Nat} {bytes : List UInt8} {fault : Malformed} :
    decodeFrom offset bytes = .error fault ↔
      ∃ front rest entries, bytes = front ++ rest ∧ Spells front entries ∧
        Breaks (offset + front.length) rest fault := by
  constructor
  · intro hread
    obtain ⟨front, rest, entries, rfl, hspells, hrest⟩ := exists_spells bytes
    refine ⟨front, rest, entries, rfl, hspells, ?_⟩
    rw [hspells.decodeFrom_append] at hread
    obtain rfl | hbreaks := hrest
    · rw [decodeFrom] at hread
      cases hread
    · obtain ⟨found, hfound⟩ := hbreaks (offset + front.length)
      rw [hfound.decodeFrom_eq] at hread
      cases hread
      exact hfound
  · rintro ⟨front, rest, entries, rfl, hspells, hbreaks⟩
    rw [hspells.decodeFrom_append, hbreaks.decodeFrom_eq]
    rfl

/-! ## Faults further on -/

/-- The fault of the same bytes when they stand further on. -/
def Malformed.shift (distance : Nat) : Malformed → Malformed
  | .truncatedLength offset remaining => .truncatedLength (distance + offset) remaining
  | .truncatedEntry offset length remaining => .truncatedEntry (distance + offset) length remaining

theorem Breaks.shift {offset : Nat} {rest : List UInt8} {fault : Malformed}
    (h : Breaks offset rest fault) (distance : Nat) :
    Breaks (distance + offset) rest (fault.shift distance) := by
  cases h with
  | length hpos hshort => exact .length hpos hshort
  | entry b₃ b₂ b₁ b₀ hshort => exact .entry b₃ b₂ b₁ b₀ hshort

/-- Bytes that stand further on are read as they are, and their fault lies further on. -/
theorem decodeFrom_eq_mapError (distance : Nat) (bytes : List UInt8) :
    decodeFrom distance bytes = (decode bytes).mapError (Malformed.shift distance) := by
  unfold decode
  cases hread : decodeFrom 0 bytes with
  | ok entries => exact decodeFrom_eq_ok_iff.mpr (decodeFrom_eq_ok_iff.mp hread)
  | error fault =>
    obtain ⟨front, rest, entries, hbytes, hspells, hbreaks⟩ := decodeFrom_eq_error_iff.mp hread
    rw [Nat.zero_add] at hbreaks
    exact decodeFrom_eq_error_iff.mpr ⟨front, rest, entries, hbytes, hspells, hbreaks.shift distance⟩

/-- Behind an accepted reply more bytes are read as by themselves: their entries follow, or their fault
lies as much further on as the reply is long. -/
theorem decode_append {bytes : List UInt8} {entries : List Entry} (h : decode bytes = .ok entries)
    (more : List UInt8) :
    decode (bytes ++ more) =
      ((decode more).mapError (Malformed.shift bytes.length)).map (entries ++ ·) := by
  have hspells : Spells bytes entries := decodeFrom_eq_ok_iff.mp h
  rw [decode, hspells.decodeFrom_append, Nat.zero_add, decodeFrom_eq_mapError]

end BatchStringify.Reply
