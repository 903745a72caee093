import BatchStringify.Pattern.Syntax
import BatchStringify.Text.Alphanumeric
import BatchStringify.Text.Blank
import BatchStringify.Text.Digits
import BatchStringify.Text.Reader

/-!
# Reading patterns

`Pattern.read?` reads a regular expression. A pattern here is the content of a field, which ends at
the first closing brace; so nothing that is written with braces (counted repetition, code points and
properties by name) can come to its end, and an opening brace that is no plain character is refused.
Look-around and back references are refused too.
-/

namespace BatchStringify.Pattern

open Text

/-- What a reader of patterns keeps in mind. -/
structure Progress where
  /-- Whether blanks and comments do not count. -/
  ignoresBlanks : Bool := false
  /-- The names of groups. -/
  names : List (List Char) := []

/-- Reads a part of a pattern. -/
abbrev PatternReader (α : Type) : Type := StateT Progress Reader α

/-- Reads without regard to what was kept in mind. -/
def plain {α : Type} (r : Reader α) : PatternReader α := StateT.lift r

/-- Refuses the pattern. -/
def refuse {α : Type} : PatternReader α := plain Reader.fail

/-- Takes any character. -/
def next : PatternReader Char := plain Reader.next

/-- Takes given characters if they come next, and says whether they did. -/
def nextIf (expected : String) : PatternReader Bool := do
  return (← plain (Reader.maybe (Reader.literal expected))).isSome

/-- Takes the first of some texts that comes next, and says whether any did. -/
def nextAmong : List String → PatternReader Bool
  | [] => return false
  | text :: texts => do
    if ← nextIf text then return true else nextAmong texts

/-- The text behind blanks and comments, which start with a number sign and end with the line. The
flag says whether a comment is open. -/
def dropBlanks : Bool → List Char → List Char
  | _, [] => []
  | true, c :: rest => dropBlanks (c ≠ '\n') rest
  | false, c :: rest =>
    if isBlank c then dropBlanks false rest
    else if c = '#' then dropBlanks true rest
    else c :: rest

/-- Takes blanks and comments if they do not count. -/
def skipBlanks : PatternReader Unit := do
  if (← get).ignoresBlanks then
    plain fun text => some ((), dropBlanks false text)

/-- What an escape or a single character outside brackets stands for. -/
inductive Atom where
  | char (c : PatternChar)
  | anyChar
  | edge
  | wordEdge
  | kind (negated : Bool)

/-- The pattern of an atom. -/
def Atom.pattern : Atom → Pattern
  | .char c => .char c
  | .anyChar => .anyChar
  | .edge => .edge
  | .wordEdge => .wordEdge
  | .kind negated => .kind negated

/-- Takes that many hexadecimal digits, with blanks in front of each if they do not count. -/
def hexDigits : Nat → Nat → PatternReader Nat
  | 0, n => pure n
  | k + 1, n => do
    skipBlanks
    match hexDigit? (← next) with
    | some d => hexDigits k (16 * n + d)
    | none => refuse

/-- Takes the character with a code point of that many digits. -/
def codePoint (digits : Nat) : PatternReader Atom := do
  let n ← hexDigits digits 0
  skipBlanks
  if n.isValidChar then return .char ⟨Char.ofNat n, digits = 2⟩ else refuse

/-- Takes what follows a backslash. A character of ASCII that is no letter or digit stands for
itself. -/
def escape : PatternReader Atom := do
  let c ← next
  match c with
  | 'x' => codePoint 2
  | 'u' => codePoint 4
  | 'U' => codePoint 8
  | 'd' | 's' | 'w' => return .kind false
  | 'D' | 'S' | 'W' => return .kind true
  | 'a' => return .char ⟨'\x07', false⟩
  | 'f' => return .char ⟨'\x0C', false⟩
  | 't' => return .char ⟨'\t', false⟩
  | 'n' => return .char ⟨'\n', false⟩
  | 'r' => return .char ⟨'\r', false⟩
  | 'v' => return .char ⟨'\x0B', false⟩
  | 'A' | 'z' => return .edge
  | 'b' | 'B' | '<' | '>' => return .wordEdge
  | _ => if c.toNat < 0x80 && !c.isAlphanum then return .char ⟨c, false⟩ else refuse

/-- Takes a single character or an escape outside brackets. -/
def atom : PatternReader Atom := do
  match ← next with
  | '\\' => escape
  | '.' => return .anyChar
  | '^' | '$' => return .edge
  | c => return .char ⟨c, false⟩

/-- Takes a single character or an escape inside brackets. -/
def setAtom : PatternReader Atom := do
  match ← next with
  | '\\' => escape
  | c => return .char ⟨c, false⟩

/-- The names that sets of ASCII characters have between colons. -/
def setNames : List String :=
  ["alnum", "alpha", "ascii", "blank", "cntrl", "digit", "graph", "lower", "print", "punct",
    "space", "upper", "word", "xdigit"]

/-- Takes a set by its name behind its bracket, and says whether it is negated. -/
def namedSet : Reader Bool := do
  Reader.char ':'
  let negated := (← Reader.maybe (Reader.char '^')).isSome
  let name ← Reader.takeWhile (· ≠ ':')
  Reader.literal ":]"
  Reader.check (String.ofList name ∈ setNames)
  return negated

/-- Whether the hyphen that comes next stands between the ends of a range: it does not in front of a
closing bracket or a second hyphen. Where blanks do not count, neither do they here, nor one number
sign among them. -/
def joinsRange : PatternReader Bool := do
  let ignoresBlanks := (← get).ignoresBlanks
  plain fun text =>
    match text with
    | '-' :: rest =>
      let behind :=
        if !ignoresBlanks then rest
        else match rest.dropWhile isBlank with
          | '#' :: rest => rest.dropWhile isBlank
          | rest => rest
      some (behind.head? ≠ some ']' && behind.head? ≠ some '-', text)
    | _ => some (false, text)

/-- Takes a character, a range or a kind of characters inside brackets. -/
def setItem : PatternReader CharSet := do
  let first ← setAtom
  skipBlanks
  if ← joinsRange then
    let _ ← next
    skipBlanks
    match first, ← setAtom with
    | .char first, .char last =>
      if first.char ≤ last.char then return .range first last else refuse
    | _, _ => refuse
  else
    match first with
    | .char c => return .char c
    | .kind negated => return .kind negated
    | _ => refuse

/-- Takes hyphens that stand for themselves at the start of a set. -/
def leadingHyphens : Nat → PatternReader (List CharSet)
  | 0 => pure []
  | fuel + 1 => do
    if ← nextIf "-" then
      skipBlanks
      return .char ⟨'-', false⟩ :: (← leadingHyphens fuel)
    else return []

/-- Joins the set in front of an operation with the one behind it. -/
def joinSets : Option CharSet → CharSet → CharSet
  | none, set => set
  | some left, set => .operation left set

mutual

/-- Takes a set behind its opening bracket, and says whether it is negated. A closing bracket that
comes first stands for itself. -/
def bracketed : Nat → PatternReader (Bool × CharSet)
  | 0 => refuse
  | fuel + 1 => do
    skipBlanks
    let negated ← nextIf "^"
    skipBlanks
    let hyphens ← leadingHyphens fuel
    if !hyphens.isEmpty then return (negated, ← setRest fuel none hyphens)
    else if ← nextIf "]" then return (negated, ← setRest fuel none [.char ⟨']', false⟩])
    else return (negated, ← setRest fuel none [])

/-- Takes the rest of a set and its closing bracket, after the set in front of an operation and the
items in reverse. -/
def setRest : Nat → Option CharSet → List CharSet → PatternReader CharSet
  | 0, _, _ => refuse
  | fuel + 1, left, items => do
    skipBlanks
    let joined := joinSets left (.ofItems items)
    if ← nextIf "]" then return joined
    else if ← nextIf "[" then
      match ← plain (Reader.maybe namedSet) with
      | some negated => setRest fuel left (.named negated :: items)
      | none =>
        let (negated, set) ← bracketed fuel
        setRest fuel left (.bracketed negated set :: items)
    else if ← nextAmong ["&&", "--", "~~"] then
      setRest fuel (some joined) []
    else setRest fuel left ((← setItem) :: items)

end

/-- Adds a flag by its letter. Line ends, greed and the meaning of the point do not matter here. -/
def addFlag? (flags : PatternFlags) (on : Bool) : Char → Option PatternFlags
  | 'i' => some { flags with ignoresCase := some on }
  | 'u' => some { flags with unicode := some on }
  | 'x' => some { flags with ignoresBlanks := some on }
  | 'm' | 's' | 'U' | 'R' => some flags
  | _ => none

/-- Takes flags up to a closing parenthesis or a colon, each at most once, the ones to unset behind
a hyphen, which cannot come last. Says which of the two characters it was, and whether there was
any flag. -/
def flagLetters : Nat → List Char → PatternFlags → PatternReader (Char × Bool × PatternFlags)
  | 0, _, _ => refuse
  | fuel + 1, before, flags => do
    let c ← next
    if c = ')' || c = ':' then
      if before.head? = some '-' then refuse else return (c, !before.isEmpty, flags)
    else if c ∈ before then refuse
    else if c = '-' then flagLetters fuel (c :: before) flags
    else
      match addFlag? flags ('-' ∉ before) c with
      | some flags => flagLetters fuel (c :: before) flags
      | none => refuse

/-- Takes the name of a group and the angle bracket behind it. No two groups have one name. -/
def groupName : PatternReader Unit := do
  let name ← plain (Reader.takeWhile (· ≠ '>'))
  let _ ← next
  let names := (← get).names
  match name with
  | [] => refuse
  | c :: rest =>
    let starts := c = '_' || isAlphabetic c
    let continues (c : Char) : Bool :=
      c = '_' || c = '.' || c = '[' || c = ']' || isAlphanumeric c
    if starts && rest.all continues && name ∉ names then
      modify fun progress => { progress with names := name :: names }
    else refuse

/-- What an opening parenthesis starts. -/
inductive Opening where
  /-- New flags, and no group. -/
  | flags (flags : PatternFlags)
  | group (flags : PatternFlags)

/-- Takes what belongs to an opening parenthesis. -/
def opening (fuel : Nat) : PatternReader Opening := do
  skipBlanks
  if ← nextAmong ["?=", "?!", "?<=", "?<!"] then refuse
  else if ← nextAmong ["?P<", "?<"] then
    groupName
    return .group {}
  else if ← nextIf "?" then
    let (last, any, flags) ← flagLetters fuel [] {}
    if last = ':' then return .group flags
    else if any then return .flags flags
    else refuse
  else return .group {}

/-- Sets whether blanks count. -/
def setBlanks (flags : PatternFlags) : PatternReader Unit :=
  modify fun progress =>
    { progress with ignoresBlanks := flags.ignoresBlanks.getD progress.ignoresBlanks }

mutual

/-- Takes branches with bars between them. -/
def branches : Nat → PatternReader (List Pattern)
  | 0 => refuse
  | fuel + 1 => do
    let first ← parts fuel []
    if ← nextIf "|" then return first :: (← branches fuel)
    else return [first]

/-- Takes the rest of a branch, after the parts in reverse. -/
def parts : Nat → List Pattern → PatternReader Pattern
  | 0, _ => refuse
  | fuel + 1, before => do
    skipBlanks
    match ← plain Reader.peek with
    | none | some ')' | some '|' => return .ofParts before.reverse
    | some '(' =>
      let _ ← next
      match ← opening fuel with
      | .flags flags =>
        setBlanks flags
        parts fuel (.newFlags flags :: before)
      | .group flags =>
        let outer := (← get).ignoresBlanks
        setBlanks flags
        let inner := Pattern.ofBranches (← branches fuel)
        if ← nextIf ")" then
          modify fun progress => { progress with ignoresBlanks := outer }
          parts fuel (.group flags inner :: before)
        else refuse
    | some '[' =>
      let _ ← next
      let (negated, set) ← bracketed fuel
      parts fuel (.charSet negated set :: before)
    | some '?' | some '*' | some '+' =>
      let _ ← next
      let _ ← nextIf "?"
      match before with
      | [] | .newFlags _ :: _ => refuse
      | part :: before => parts fuel (.repeated part :: before)
    | some '\x7b' => refuse
    | some _ => parts fuel ((← atom).pattern :: before)

end

/-- Reads a pattern that is the whole text. Each part takes at least one character, and each step
into a part takes one unit of fuel. -/
def read? (text : List Char) : Option Pattern :=
  match (branches (2 * text.length + 3)).run {} text with
  | some ((found, _), []) => some (.ofBranches found)
  | _ => none

end BatchStringify.Pattern
