/-!
# Octets of a text

Places in a text counted in the octets of its UTF-8 form, where a character takes up to four. A
text can be cut between two characters but not inside one.
-/

namespace BatchStringify.Text

/-- The number of octets of a text. -/
def octets : List Char → Nat
  | [] => 0
  | c :: rest => c.utf8Size + octets rest

/-- The text in front of an octet and the text from there on, unless the octet lies inside a
character or beyond the end. -/
def cutAt? : Nat → List Char → Option (List Char × List Char)
  | 0, text => some ([], text)
  | _ + 1, [] => none
  | n + 1, c :: rest =>
    if c.utf8Size ≤ n + 1 then
      (cutAt? (n + 1 - c.utf8Size) rest).map fun (front, back) => (c :: front, back)
    else none

/-- The part of a text between two octets. -/
def between? (text : List Char) (first last : Nat) : Option (List Char) := do
  let (_, back) ← cutAt? first text
  let (part, _) ← cutAt? (last - first) back
  return part

end BatchStringify.Text
