import BatchStringify.Toml.Number
import BatchStringify.Toml.Table

/-!
# Documents

A document is a sequence of lines: keys with their values, headers of tables and of elements of
arrays of tables, comments and blank lines. `parse?` gives the root table of a text, if the text is
a valid document.
-/

namespace BatchStringify.Toml

open Text (Reader)
open Text.Reader

mutual

/-- Takes a value around which `depth` arrays and tables are open. -/
def value : Nat → Nat → Reader Value
  | 0, _ => fail
  | fuel + 1, depth => do
    match ← peek with
    | some '\"' | some '\'' => return .string (← string)
    | some '[' =>
      char '['
      check (decide (depth + 1 < depthLimit))
      return .array (← arrayItems fuel (depth + 1))
    | some '\x7b' =>
      char '\x7b'
      check (decide (depth + 1 < depthLimit))
      spaces
      if (← peek) = some '\x7d' then
        char '\x7d'
        return .table []
      else
        match inlineTable (← inlinePairs fuel (depth + 1)) with
        | some table => return table
        | none => fail
    | some 't' =>
      literal "true"
      return .boolean true
    | some 'f' =>
      literal "false"
      return .boolean false
    | _ => dateOrNumber

/-- Takes the items of an array and its closing bracket. -/
def arrayItems : Nat → Nat → Reader (List Value)
  | 0, _ => fail
  | fuel + 1, depth => do
    blankLines
    if (← peek) = some ']' then
      char ']'
      return []
    else
      let item ← value fuel depth
      blankLines
      match ← next with
      | ',' => return item :: (← arrayItems fuel depth)
      | ']' => return [item]
      | _ => fail

/-- Takes the keys and values of a table between braces and its closing brace. -/
def inlinePairs : Nat → Nat → Reader (List (Key × Value))
  | 0, _ => fail
  | fuel + 1, depth => do
    let name ← key
    char '='
    spaces
    let v ← value fuel depth
    spaces
    match ← next with
    | ',' => return (name, v) :: (← inlinePairs fuel depth)
    | '\x7d' => return [(name, v)]
    | _ => fail

end

/-- What one line says. -/
inductive Line where
  | assign (key : Key) (v : Value)
  | table (key : Key)
  | element (key : Key)

/-- Takes a header with its brackets. -/
def header : Reader Line := do
  char '['
  if (← peek) = some '[' then
    char '['
    let name ← key
    literal "]]"
    return .element name
  else
    let name ← key
    char ']'
    return .table name

/-- Takes a key and its value. -/
def assignment : Reader Line := do
  let name ← key
  char '='
  spaces
  return .assign name (← bounded fun fuel => value fuel 0)

/-- Takes lines up to the end of the text. -/
def lines : Nat → Reader (List Line)
  | 0 => fail
  | fuel + 1 => do
    blankLines
    if ← atEnd then return []
    else
      let line ← if (← peek) = some '[' then header else assignment
      lineEnd
      return line :: (← lines fuel)

/-- The document with one more line. -/
def Draft.add (d : Draft) : Line → Option Draft
  | .assign key v => d.assign key v
  | .table key => d.openTable key
  | .element key => d.openElement key

/-- A byte order mark in front of the text. -/
def byteOrderMark : Reader Unit := skip (char '\uFEFF')

/-- Takes all lines of a document. -/
def document : Reader (List Line) := do
  byteOrderMark
  bounded lines

/-- The root table of a text, if the text is a valid document. -/
def parse? (text : String) : Option (List (String × Value)) := do
  let (lines, _) ← document text.toList
  let draft ← lines.foldlM Draft.add {}
  let root ← draft.close
  return Node.toEntries root.items

end BatchStringify.Toml
