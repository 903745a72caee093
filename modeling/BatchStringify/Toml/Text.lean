import BatchStringify.Text.Digits
import BatchStringify.Toml.Space

/-!
# Strings and keys

Strings stand between quotes of one of four kinds: basic strings know escapes, literal strings do
not, and both can be tripled to run over several lines, where a line break counts as a line feed
however it is written. A key is a bare word or a string of one line, and a dotted key is a path of
such keys.
-/

namespace BatchStringify.Toml

open Text (Reader hexDigit?)
open Text.Reader

/-- Takes that many hexadecimal digits. -/
def hexNumber : Nat → Nat → Reader Nat
  | 0, n => pure n
  | k + 1, n => do
    let some d := hexDigit? (← next) | fail
    hexNumber k (16 * n + d)

/-- Takes a code point of that many digits. -/
def codePoint (digits : Nat) : Reader Char := do
  let n ← hexNumber digits 0
  if n.isValidChar then return Char.ofNat n else fail

/-- Takes what follows the backslash of an escape. -/
def escape : Reader Char := do
  match ← next with
  | 'b' => return '\x08'
  | 't' => return '\t'
  | 'n' => return '\n'
  | 'f' => return '\x0C'
  | 'r' => return '\r'
  | '\"' => return '\"'
  | '\\' => return '\\'
  | 'u' => codePoint 4
  | 'U' => codePoint 8
  | _ => fail

/-- Takes the rest of a basic string of one line. -/
def basicRest : Nat → Reader (List Char)
  | 0 => fail
  | fuel + 1 => do
    match ← next with
    | '\"' => return []
    | '\\' => return (← escape) :: (← basicRest fuel)
    | c =>
      check (isPlainChar c)
      return c :: (← basicRest fuel)

/-- Takes the rest of a literal string of one line. -/
def literalRest : Reader (List Char) := do
  let text ← takeWhile fun c => isPlainChar c && c ≠ '\''
  char '\''
  return text

/-- Takes more of the given quote, at most that many. -/
def moreQuotes (quote : Char) : Nat → Reader Nat
  | 0 => pure 0
  | k + 1 => do
    if (← peek) = some quote then
      char quote
      return (← moreQuotes quote k) + 1
    else return 0

/-- Whether a backslash joins two lines here: only white space stands before the line break. -/
def joinsLines : Reader Bool := fun text =>
  match text.dropWhile isSpace with
  | '\n' :: _ | '\r' :: '\n' :: _ => some (true, text)
  | _ => some (false, text)

/-- Takes white space and line breaks. -/
def emptyLines : Nat → Reader Unit
  | 0 => pure ()
  | fuel + 1 => do
    spaces
    match ← peek with
    | some '\n' | some '\r' =>
      lineBreak
      emptyLines fuel
    | _ => pure ()

/-- Takes the rest of a string of several lines. Up to two quotes in a row belong to the text, also
in front of the three that end it. -/
def linesRest (quote : Char) (escapes : Bool) : Nat → Reader (List Char)
  | 0 => fail
  | fuel + 1 => do
    let c ← next
    if c = quote then
      let n := (← moreQuotes quote 4) + 1
      if 3 ≤ n then return List.replicate (n - 3) quote
      else return List.replicate n quote ++ (← linesRest quote escapes fuel)
    else if c = '\\' && escapes then
      if ← joinsLines then
        bounded emptyLines
        linesRest quote escapes fuel
      else return (← escape) :: (← linesRest quote escapes fuel)
    else if c = '\n' then return '\n' :: (← linesRest quote escapes fuel)
    else if c = '\r' then
      char '\n'
      return '\n' :: (← linesRest quote escapes fuel)
    else
      check (isPlainChar c)
      return c :: (← linesRest quote escapes fuel)

/-- Takes a string of one line. -/
def lineString : Reader String := do
  match ← next with
  | '\"' => return String.ofList (← bounded basicRest)
  | '\'' => return String.ofList (← literalRest)
  | _ => fail

/-- Takes a string of several lines; a line break right after the opening quotes does not count. -/
def linesString (quote : Char) : Reader String := do
  literal (String.ofList [quote, quote, quote])
  skip lineBreak
  return String.ofList (← bounded (linesRest quote (quote = '\"')))

/-- Takes a string of any kind. -/
def string : Reader String := linesString '\"' <|> linesString '\'' <|> lineString

/-- Whether a character may stand in a bare key. -/
def isBareChar (c : Char) : Bool := c.isAlphanum || c = '-' || c = '_'

/-- Takes one part of a key. -/
def keyPart : Reader String := do
  match ← peek with
  | some '\"' | some '\'' => lineString
  | _ =>
    let word ← takeWhile isBareChar
    check !word.isEmpty
    return String.ofList word

/-- The number of parts that a key must stay below, and of arrays and tables around a value. -/
def depthLimit : Nat := 80

/-- Takes the parts of a dotted key with the white space around them. -/
def keyParts : Nat → Reader (List String)
  | 0 => fail
  | fuel + 1 => do
    spaces
    let part ← keyPart
    spaces
    match ← peek with
    | some '.' =>
      char '.'
      return part :: (← keyParts fuel)
    | _ => return [part]

/-- A dotted key: the path to a table and the key in it. -/
structure Key where
  path : List String
  name : String

/-- The key of one or more parts. -/
def Key.ofParts? (parts : List String) : Option Key :=
  parts.getLast?.map fun name => ⟨parts.dropLast, name⟩

/-- Takes a dotted key. -/
def key : Reader Key := do
  let parts ← bounded keyParts
  check (decide (parts.length < depthLimit))
  match Key.ofParts? parts with
  | some key => return key
  | none => fail

end BatchStringify.Toml
