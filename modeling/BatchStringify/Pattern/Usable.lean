import BatchStringify.Pattern.Reader

/-!
# Usable patterns

A pattern can be read and still not be used. Patterns know the characters of ASCII by their
properties and no others. So as long as text is a sequence of characters, letters cannot stand for
both of their cases, and digits, blanks, word characters and the edges of words have no meaning.
Where text is a sequence of octets instead, a pattern may match nothing that is not UTF-8: no octet
beyond ASCII, and no complement.
-/

namespace BatchStringify

/-- How a part of a pattern is read. -/
structure PatternMode where
  ignoresCase : Bool := false
  unicode : Bool := true

/-- The mode with flags set and unset. -/
def PatternMode.with (mode : PatternMode) (flags : PatternFlags) : PatternMode :=
  ⟨flags.ignoresCase.getD mode.ignoresCase, flags.unicode.getD mode.unicode⟩

namespace PatternChar

/-- Whether a character can stand outside brackets. -/
def isUsable (c : PatternChar) (mode : PatternMode) : Bool :=
  if mode.unicode then !mode.ignoresCase else !c.isOctet || decide (c.char.toNat < 0x80)

/-- Whether a character can stand inside brackets. -/
def isUsableInSet (c : PatternChar) (mode : PatternMode) : Bool :=
  if mode.unicode then !mode.ignoresCase else decide (c.char.toNat < 0x80)

end PatternChar

namespace CharSet

mutual

/-- Whether a set has a meaning in a mode. -/
def isUsable (mode : PatternMode) : CharSet → Bool
  | .char c => c.isUsableInSet mode
  | .range first last => first.isUsableInSet mode && last.isUsableInSet mode
  | .named negated => if mode.unicode then !mode.ignoresCase else !negated
  | .kind negated => !mode.unicode && !negated
  | .bracketed negated set => (mode.unicode || !negated) && set.isUsable mode
  | .union items => areUsable mode items
  | .operation left right => left.isUsable mode && right.isUsable mode

/-- Whether all sets have a meaning in a mode. -/
def areUsable (mode : PatternMode) : List CharSet → Bool
  | [] => true
  | set :: sets => set.isUsable mode && areUsable mode sets

end

end CharSet

namespace Pattern

mutual

/-- The mode behind a pattern, if the pattern has a meaning in a mode. -/
def modeBehind? (mode : PatternMode) : Pattern → Option PatternMode
  | .char c => if c.isUsable mode then some mode else none
  | .anyChar => if mode.unicode then some mode else none
  | .edge => some mode
  | .wordEdge => if mode.unicode then none else some mode
  | .kind negated => if !mode.unicode && !negated then some mode else none
  | .charSet negated set =>
    if (CharSet.bracketed negated set).isUsable mode then some mode else none
  | .newFlags flags => some (mode.with flags)
  | .repeated part => modeBehind? mode part
  | .group flags part => (modeBehind? (mode.with flags) part).map fun _ => mode
  | .sequence parts => modeBehindAll? mode parts
  | .alternatives parts => modeBehindAll? mode parts

/-- The mode behind patterns one after the other, if each has a meaning. -/
def modeBehindAll? (mode : PatternMode) : List Pattern → Option PatternMode
  | [] => some mode
  | part :: parts => (modeBehind? mode part).bind fun mode => modeBehindAll? mode parts

end

/-- The greatest depth of a pattern. -/
def depthLimit : Nat := 250

/-- Whether a text is a pattern that can be used. -/
def accepts (text : List Char) : Bool :=
  match read? text with
  | none => false
  | some pattern => decide (pattern.depth ≤ depthLimit) && (pattern.modeBehind? {}).isSome

end Pattern

end BatchStringify
