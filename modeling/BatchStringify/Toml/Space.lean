import BatchStringify.Text.Reader

/-!
# White space, comments and line ends

What stands between the parts of a document and does not count.
-/

namespace BatchStringify.Toml

open Text (Reader)
open Text.Reader

/-- Takes a line break. -/
def lineBreak : Reader Unit := do
  match ← next with
  | '\n' => return ()
  | '\r' => char '\n'
  | _ => fail

/-- Whether a character is white space within a line. -/
def isSpace (c : Char) : Bool := c = ' ' || c = '\t'

/-- Takes white space within a line. -/
def spaces : Reader Unit := do
  let _ ← takeWhile isSpace

/-- Whether a character may stand in a comment or a string: no control character but the tab. -/
def isPlainChar (c : Char) : Bool :=
  c = '\t' || (decide (0x20 ≤ c.toNat) && decide (c.toNat ≠ 0x7F))

/-- Takes a comment up to the end of its line. -/
def comment : Reader Unit := do
  char '#'
  let _ ← takeWhile isPlainChar

/-- Takes the rest of a line that holds nothing more than white space and a comment. -/
def lineEnd : Reader Unit := do
  spaces
  skip comment
  unless ← atEnd do lineBreak

/-- Takes white space, line breaks and comments. -/
def blankLines : Reader Unit := bounded go
where
  /-- Takes at most that many stretches of them. -/
  go : Nat → Reader Unit
    | 0 => pure ()
    | fuel + 1 => do
      spaces
      match ← peek with
      | some '#' =>
        comment
        unless ← atEnd do
          lineBreak
          go fuel
      | some '\n' | some '\r' =>
        lineBreak
        go fuel
      | _ => pure ()

end BatchStringify.Toml
