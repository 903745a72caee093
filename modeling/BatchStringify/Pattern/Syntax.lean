/-!
# Patterns

A pattern is a regular expression. This is what it consists of, as far as it decides whether the
pattern can be used: `depth` says how deeply its parts lie in each other.
-/

namespace BatchStringify

/-- A character of a pattern. -/
structure PatternChar where
  char : Char
  /-- Whether it is given by two hexadecimal digits, which can also mean an octet. -/
  isOctet : Bool := false
  deriving DecidableEq, Repr

/-- The ways in which a pattern is read, each set or unset by a letter; `none` leaves it alone. -/
structure PatternFlags where
  /-- Letters stand for both of their cases: `i`. -/
  ignoresCase : Option Bool := none
  /-- Text is a sequence of characters, not of octets: `u`. -/
  unicode : Option Bool := none
  /-- Blanks and comments do not count: `x`. -/
  ignoresBlanks : Option Bool := none
  deriving DecidableEq, Repr

/-- A set of characters between brackets. -/
inductive CharSet where
  | char (c : PatternChar)
  | range (first last : PatternChar)
  /-- A set with a name between colons. -/
  | named (negated : Bool)
  /-- Digits, blanks or word characters, or all others. -/
  | kind (negated : Bool)
  /-- A set between brackets of its own. -/
  | bracketed (negated : Bool) (set : CharSet)
  /-- No item, or two and more. -/
  | union (items : List CharSet)
  /-- What two sets have in common, or what the first or one of them has alone. -/
  | operation (left right : CharSet)

/-- A pattern. -/
inductive Pattern where
  | char (c : PatternChar)
  /-- Any character but a line feed. -/
  | anyChar
  /-- The start or the end of the text or of a line. -/
  | edge
  /-- The edge of a word, or any other place. -/
  | wordEdge
  /-- Digits, blanks or word characters, or all others. -/
  | kind (negated : Bool)
  | charSet (negated : Bool) (set : CharSet)
  /-- New flags up to the end of the group. -/
  | newFlags (flags : PatternFlags)
  /-- A part any number of times, or at least or at most once. -/
  | repeated (part : Pattern)
  | group (flags : PatternFlags) (part : Pattern)
  /-- No part, or two and more. -/
  | sequence (parts : List Pattern)
  | alternatives (parts : List Pattern)

namespace CharSet

/-- The union of items; a single one is left as it is. -/
def ofItems : List CharSet → CharSet
  | [item] => item
  | items => .union items

mutual

/-- How deeply the parts lie in each other. -/
def depth : CharSet → Nat
  | .bracketed _ set => set.depth + 1
  | .union [] => 0
  | .union (item :: items) => max item.depth (depths items) + 1
  | .operation left right => max left.depth right.depth + 1
  | _ => 0

/-- The greatest depth of some sets. -/
def depths : List CharSet → Nat
  | [] => 0
  | set :: sets => max set.depth (depths sets)

end

end CharSet

namespace Pattern

/-- The sequence of parts; a single one is left as it is. -/
def ofParts : List Pattern → Pattern
  | [part] => part
  | parts => .sequence parts

/-- The choice between branches; a single one is left as it is. -/
def ofBranches : List Pattern → Pattern
  | [branch] => branch
  | branches => .alternatives branches

mutual

/-- How deeply the parts lie in each other. -/
def depth : Pattern → Nat
  | .charSet _ set => set.depth + 1
  | .repeated part => part.depth + 1
  | .group _ part => part.depth + 1
  | .sequence [] => 0
  | .sequence (part :: parts) => max part.depth (depths parts) + 1
  | .alternatives parts => depths parts + 1
  | _ => 0

/-- The greatest depth of some patterns. -/
def depths : List Pattern → Nat
  | [] => 0
  | part :: parts => max part.depth (depths parts)

end

end Pattern

end BatchStringify
