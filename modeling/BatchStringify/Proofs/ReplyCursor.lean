import BatchStringify.Proofs.ReplyGrammar

/-!
# Reading a reply by index

A machine reads a reply from a buffer and a place in it, with numbers that end somewhere. `Cursor.read?`
reads so: it has no result when a sum is too large for the machine, when an index lies outside the
buffer, or when it does not come to an end in the passes that it is given. None of this happens
(`Cursor.read?_eq_decode`): every pass takes a length field, so there are at most a quarter as many
passes as bytes, and no sum goes beyond the length of the buffer.

What is read is told by the grammar (`reads_grammar`).
-/

namespace BatchStringify.Reply

/-- A reply, and the place in it where reading goes on. -/
structure Cursor where
  /-- The bytes of the reply. -/
  buffer : List UInt8
  /-- The number of bytes already read. -/
  position : Nat

namespace Cursor

/-! ## The reader -/

/-- The number of bytes from the place on. -/
def remaining (cursor : Cursor) : Nat := cursor.buffer.length - cursor.position

section Reader

variable (largest : Nat)

/-- A number, if the machine has it. -/
def number? (n : Nat) : Option Nat := if n ≤ largest then some n else none

/-- The byte that stands some way behind the place. -/
def byte? (cursor : Cursor) (distance : Nat) : Option UInt8 := do
  let place ← number? largest (cursor.position + distance)
  cursor.buffer[place]?

/-- The bytes from the place to another one. -/
def slice? (cursor : Cursor) (stop : Nat) : Option (List UInt8) :=
  if cursor.position ≤ stop ∧ stop ≤ cursor.buffer.length then
    some ((cursor.buffer.drop cursor.position).take (stop - cursor.position))
  else none

/-- The length field at the place. -/
def readLength? (cursor : Cursor) : Option (Except Malformed (Int × Cursor)) :=
  if cursor.remaining < 4 then
    some (.error (.truncatedLength cursor.position cursor.remaining))
  else do
    let b₃ ← cursor.byte? largest 0
    let b₂ ← cursor.byte? largest 1
    let b₁ ← cursor.byte? largest 2
    let b₀ ← cursor.byte? largest 3
    let next ← number? largest (cursor.position + 4)
    return .ok (signed b₃ b₂ b₁ b₀, ⟨cursor.buffer, next⟩)

/-- So many bytes from the place on, the text of the entry at `offset`. -/
def readBytes? (cursor : Cursor) (length offset : Nat) :
    Option (Except Malformed (List UInt8 × Cursor)) :=
  if cursor.remaining < length then
    some (.error (.truncatedEntry offset length cursor.remaining))
  else do
    let next ← number? largest (cursor.position + length)
    let text ← cursor.slice? next
    return .ok (text, ⟨cursor.buffer, next⟩)

/-- The entries found so far and those from the place on, in at most so many passes. -/
def read? : Nat → Cursor → List Entry → Option (Except Malformed (List Entry))
  | 0, _, _ => none
  | passes + 1, cursor, found =>
    if cursor.remaining = 0 then some (.ok found)
    else do
      match ← cursor.readLength? largest with
      | .error fault => return .error fault
      | .ok (field, behind) =>
        let length ← number? largest field.natAbs
        match ← behind.readBytes? largest length cursor.position with
        | .error fault => return .error fault
        | .ok (text, next) =>
          read? passes next (found ++ [⟨decide (field < 0), Latin1.decode text⟩])

end Reader

/-! ## One pass -/

/-- The place between two parts of a reply. -/
def between (front rest : List UInt8) : Cursor := ⟨front ++ rest, front.length⟩

@[simp] theorem position_between (front rest : List UInt8) :
    (between front rest).position = front.length := rfl

@[simp] theorem remaining_between (front rest : List UInt8) :
    (between front rest).remaining = rest.length := by
  simp [remaining, between]

variable {largest : Nat}

theorem number?_of_le {n : Nat} (h : n ≤ largest) : number? largest n = some n := if_pos h

/-- A byte that lies behind the cursor is read at its index. -/
theorem byte?_between {front rest : List UInt8} {distance : Nat}
    (hsize : (front ++ rest).length ≤ largest) (hin : distance < rest.length) :
    (between front rest).byte? largest distance = rest[distance]? := by
  rw [List.length_append] at hsize
  have hplace : number? largest (front.length + distance) = some (front.length + distance) :=
    number?_of_le (by omega)
  simp only [byte?, between, hplace, Option.bind_eq_bind, Option.bind_some]
  rw [List.getElem?_append_right (Nat.le_add_right _ _), Nat.add_sub_cancel_left]

/-- The text between two places is what stands there. -/
theorem slice?_between (front text rest : List UInt8) :
    (between front (text ++ rest)).slice? (front.length + text.length) = some text := by
  simp [slice?, between]

/-- With fewer than four bytes left there is no length. -/
theorem readLength?_short (front : List UInt8) {rest : List UInt8} (hshort : rest.length ≤ 3) :
    (between front rest).readLength? largest =
      some (.error (.truncatedLength front.length rest.length)) := by
  have hless : (between front rest).remaining < 4 := by
    rw [remaining_between]
    omega
  rw [readLength?, if_pos hless, remaining_between, position_between]

/-- Four bytes are a length, and the cursor moves behind them. -/
theorem readLength?_word {front tail : List UInt8} {b₃ b₂ b₁ b₀ : UInt8}
    (hsize : (front ++ b₃ :: b₂ :: b₁ :: b₀ :: tail).length ≤ largest) :
    (between front (b₃ :: b₂ :: b₁ :: b₀ :: tail)).readLength? largest =
      some (.ok (signed b₃ b₂ b₁ b₀, between (front ++ [b₃, b₂, b₁, b₀]) tail)) := by
  have hnext : number? largest (front.length + 4) = some (front.length + 4) := by
    simp only [List.length_append, List.length_cons] at hsize
    exact number?_of_le (by omega)
  have hmove : (⟨(between front (b₃ :: b₂ :: b₁ :: b₀ :: tail)).buffer, front.length + 4⟩ : Cursor) =
      between (front ++ [b₃, b₂, b₁, b₀]) tail := by
    simp [between]
  rw [readLength?, if_neg (by simp), byte?_between hsize (by simp), byte?_between hsize (by simp),
    byte?_between hsize (by simp), byte?_between hsize (by simp), position_between, hnext, ← hmove]
  rfl

/-- With fewer bytes left than the length says the entry is cut. -/
theorem readBytes?_short (front : List UInt8) {text : List UInt8} {length : Nat} (offset : Nat)
    (hshort : text.length < length) :
    (between front text).readBytes? largest length offset =
      some (.error (.truncatedEntry offset length text.length)) := by
  rw [readBytes?, remaining_between, if_pos hshort]

/-- Otherwise the entry is read, and the cursor moves behind it. -/
theorem readBytes?_text {front text rest : List UInt8} (offset : Nat)
    (hsize : (front ++ (text ++ rest)).length ≤ largest) :
    (between front (text ++ rest)).readBytes? largest text.length offset =
      some (.ok (text, between (front ++ text) rest)) := by
  have hnext : number? largest (front.length + text.length) = some (front.length + text.length) := by
    simp only [List.length_append] at hsize
    exact number?_of_le (by omega)
  have hmove : (⟨(between front (text ++ rest)).buffer, front.length + text.length⟩ : Cursor) =
      between (front ++ text) rest := by
    simp [between]
  rw [readBytes?, if_neg (by simp), position_between, hnext, ← hmove]
  simp only [Option.bind_eq_bind, Option.bind_some, slice?_between]
  rfl

/-! ## All passes -/

section Passes

variable {front : List UInt8} {b₃ b₂ b₁ b₀ : UInt8} {text : List UInt8}

/-- The largest magnitude of a length field is a number of the machine. -/
theorem number?_natAbs_signed (hfield : 0x80000000 ≤ largest) (b₃ b₂ b₁ b₀ : UInt8) :
    number? largest (signed b₃ b₂ b₁ b₀).natAbs = some (signed b₃ b₂ b₁ b₀).natAbs :=
  number?_of_le (Nat.le_trans (natAbs_signed_le b₃ b₂ b₁ b₀) hfield)

/-- A pass that finds an entry goes on behind it. -/
theorem read?_entry (hfield : 0x80000000 ≤ largest) {later : List UInt8}
    (hsize : (front ++ b₃ :: b₂ :: b₁ :: b₀ :: (text ++ later)).length ≤ largest)
    (hlength : text.length = (signed b₃ b₂ b₁ b₀).natAbs) (passes : Nat) (found : List Entry) :
    read? largest (passes + 1) (between front (b₃ :: b₂ :: b₁ :: b₀ :: (text ++ later))) found =
      read? largest passes (between (front ++ [b₃, b₂, b₁, b₀] ++ text) later)
        (found ++ [⟨decide (signed b₃ b₂ b₁ b₀ < 0), Latin1.decode text⟩]) := by
  have hsize' : (front ++ [b₃, b₂, b₁, b₀] ++ (text ++ later)).length ≤ largest := by
    rwa [List.append_assoc]
  have htext := readBytes?_text front.length hsize'
  rw [hlength] at htext
  rw [read?, if_neg (by simp), readLength?_word hsize]
  simp only [Option.bind_eq_bind, Option.bind_some, number?_natAbs_signed hfield, position_between,
    htext]

/-- A pass that finds no entry tells why. -/
theorem read?_breaks (hfield : 0x80000000 ≤ largest) {rest : List UInt8}
    (hsize : (front ++ rest).length ≤ largest) {fault : Malformed}
    (hbreaks : Breaks front.length rest fault) (passes : Nat) (found : List Entry) :
    read? largest (passes + 1) (between front rest) found = some (.error fault) := by
  cases hbreaks with
  | length hpos hshort =>
    have hmore : (between front rest).remaining ≠ 0 := by
      rw [remaining_between]
      omega
    rw [read?, if_neg hmore, readLength?_short front hshort]
    rfl
  | entry b₃ b₂ b₁ b₀ hshort =>
    rw [read?, if_neg (by simp), readLength?_word hsize]
    simp only [Option.bind_eq_bind, Option.bind_some, number?_natAbs_signed hfield,
      readBytes?_short _ _ hshort, position_between]
    rfl

end Passes

/-- From any place in a reply the entries behind it are read, one in each pass. -/
theorem read?_between (hfield : 0x80000000 ≤ largest) (passes : Nat) (front rest : List UInt8)
    (found : List Entry) (hsize : (front ++ rest).length ≤ largest)
    (hpasses : rest.length / 4 < passes) :
    read? largest passes (between front rest) found =
      some ((decodeFrom front.length rest).map (found ++ ·)) := by
  induction passes generalizing front rest found with
  | zero => omega
  | succ passes ih =>
    obtain rfl | hbreaks | ⟨b₃, b₂, b₁, b₀, text, later, rfl, hlength⟩ := breaks_or_entry rest
    · rw [read?, if_pos (by simp), decodeFrom]
      simp [Except.map]
    · obtain ⟨fault, hfault⟩ := hbreaks front.length
      rw [hfault.decodeFrom_eq, read?_breaks hfield hsize hfault]
      rfl
    · have hsize' : (front ++ [b₃, b₂, b₁, b₀] ++ text ++ later).length ≤ largest := by
        simpa using hsize
      have hpasses' : later.length / 4 < passes := by
        simp only [List.length_cons, List.length_append] at hpasses
        omega
      have hbehind : (front ++ [b₃, b₂, b₁, b₀] ++ text).length =
          front.length + (4 + text.length) := by
        simp only [List.length_append, List.length_cons, List.length_nil]
        omega
      rw [read?_entry hfield hsize hlength, ih _ _ _ hsize' hpasses', hbehind,
        decodeFrom_entry front.length b₃ b₂ b₁ b₀ hlength]
      cases decodeFrom (front.length + (4 + text.length)) later <;> simp [Except.map]

/-- A machine that has the numbers up to the length of a reply, and up to the largest magnitude of a
length field, reads the entries of the reply or its fault: no index is outside, no sum is too large,
and there are at most a quarter as many entries as bytes. -/
theorem read?_eq_decode (hfield : 0x80000000 ≤ largest) {bytes : List UInt8}
    (hsize : bytes.length ≤ largest) :
    read? largest (bytes.length / 4 + 1) ⟨bytes, 0⟩ [] = some (decode bytes) := by
  have hread := read?_between hfield (bytes.length / 4 + 1) [] bytes [] hsize (Nat.lt_succ_self _)
  rw [List.length_nil] at hread
  refine hread.trans ?_
  rw [decode]
  cases decodeFrom 0 bytes <;> rfl

end Cursor

/-! ## What is read -/

/-- A machine whose numbers reach the length of the reply reads it by index, in at most one pass more
than a quarter of its bytes, and what it reads is told by the grammar: entries when the bytes spell them, and
otherwise the fault at the first offset where no entry stands. A length field breaks off when one to
three bytes are left, an entry when fewer bytes are left behind its length field than that says. Behind an
accepted reply more bytes are read as by themselves. -/
theorem reads_grammar (bytes : List UInt8) :
    (∀ largest, 0x80000000 ≤ largest → bytes.length ≤ largest →
      Cursor.read? largest (bytes.length / 4 + 1) ⟨bytes, 0⟩ [] = some (decode bytes)) ∧
    (∀ entries, decode bytes = .ok entries ↔ Spells bytes entries) ∧
    (∀ offset remaining, decode bytes = .error (.truncatedLength offset remaining) ↔
      ∃ front rest entries, bytes = front ++ rest ∧ Spells front entries ∧ front.length = offset ∧
        rest.length = remaining ∧ 1 ≤ remaining ∧ remaining ≤ 3) ∧
    (∀ offset length remaining, decode bytes = .error (.truncatedEntry offset length remaining) ↔
      ∃ front b₃ b₂ b₁ b₀ rest entries, bytes = front ++ b₃ :: b₂ :: b₁ :: b₀ :: rest ∧
        Spells front entries ∧ front.length = offset ∧ (signed b₃ b₂ b₁ b₀).natAbs = length ∧
        rest.length = remaining ∧ remaining < length) ∧
    (∀ entries, decode bytes = .ok entries → ∀ more,
      decode (bytes ++ more) =
        ((decode more).mapError (Malformed.shift bytes.length)).map (entries ++ ·)) := by
  refine ⟨?indexed, fun entries => decodeFrom_eq_ok_iff, ?length, ?entry,
    fun entries accepted => decode_append accepted⟩
  case indexed =>
    intro largest hfield hsize
    exact Cursor.read?_eq_decode hfield hsize
  case length =>
    intro offset remaining
    rw [decode, decodeFrom_eq_error_iff]
    constructor
    · rintro ⟨front, rest, entries, hbytes, hspells, hbreaks⟩
      rw [Nat.zero_add] at hbreaks
      cases hbreaks with
      | length hpos hshort =>
        exact ⟨front, rest, entries, hbytes, hspells, rfl, rfl, hpos, hshort⟩
    · rintro ⟨front, rest, entries, hbytes, hspells, rfl, rfl, hpos, hshort⟩
      refine ⟨front, rest, entries, hbytes, hspells, ?_⟩
      rw [Nat.zero_add]
      exact .length hpos hshort
  case entry =>
    intro offset length remaining
    rw [decode, decodeFrom_eq_error_iff]
    constructor
    · rintro ⟨front, rest, entries, hbytes, hspells, hbreaks⟩
      rw [Nat.zero_add] at hbreaks
      cases hbreaks with
      | entry b₃ b₂ b₁ b₀ hshort =>
        exact ⟨front, b₃, b₂, b₁, b₀, _, entries, hbytes, hspells, rfl, rfl, rfl, hshort⟩
    · rintro ⟨front, b₃, b₂, b₁, b₀, rest, entries, hbytes, hspells, rfl, rfl, rfl, hshort⟩
      refine ⟨front, _, entries, hbytes, hspells, ?_⟩
      rw [Nat.zero_add]
      exact .entry b₃ b₂ b₁ b₀ hshort

/-- Behind the three entries the smallest number stands as a length field: it tells of 2³¹ bytes, and one
is left. -/
theorem reads_grammar_foreignBytes :
    decode foreignBytes = .ok [.success "", .failure "N\u00e9", .success "x"] ∧
    decode [0x80, 0, 0, 0, 0x41] = .error (.truncatedEntry 0 0x80000000 1) ∧
    decode (foreignBytes ++ [0x80, 0, 0, 0, 0x41]) =
      .error (.truncatedEntry 15 0x80000000 1) ∧
    Cursor.read? 0xFFFFFFFF 6 ⟨foreignBytes ++ [0x80, 0, 0, 0, 0x41], 0⟩ [] =
      some (.error (.truncatedEntry 15 0x80000000 1)) := by
  have haccepted : decode foreignBytes = .ok [.success "", .failure "N\u00e9", .success "x"] :=
    (reads_grammar foreignBytes).2.1 _ |>.mpr
      (@Spells.cons 0 0 0 0 [] _ _ rfl (@Spells.cons 0xFF 0xFF 0xFF 0xFE [0x4E, 0xE9] _ _ rfl
        (@Spells.cons 0 0 0 1 [0x78] _ _ rfl .nil)))
  have hsmallest : decode [0x80, 0, 0, 0, 0x41] = .error (.truncatedEntry 0 0x80000000 1) :=
    (reads_grammar _).2.2.2.1 0 0x80000000 1 |>.mpr
      ⟨[], 0x80, 0, 0, 0, [0x41], [], rfl, .nil, rfl, rfl, rfl, by decide⟩
  obtain ⟨-, -, -, -, hbehind⟩ := reads_grammar foreignBytes
  have hboth := hbehind _ haccepted [0x80, 0, 0, 0, 0x41]
  rw [hsmallest] at hboth
  obtain ⟨hindexed, -⟩ := reads_grammar (foreignBytes ++ [0x80, 0, 0, 0, 0x41])
  exact ⟨haccepted, hsmallest, hboth,
    (hindexed 0xFFFFFFFF (by decide) (by decide)).trans (congrArg some hboth)⟩

end BatchStringify.Reply
