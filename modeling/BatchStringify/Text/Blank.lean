import BatchStringify.Text.Ranges

/-!
# Blank characters

The twenty-five characters of the Unicode property White_Space, and the text between the blanks at
both ends.
-/

namespace BatchStringify.Text

/-- The characters with the property White_Space. -/
def blanks : Ranges :=
  [(0x9, 0xD), (0x20, 0x20), (0x85, 0x85), (0xA0, 0xA0), (0x1680, 0x1680), (0x2000, 0x200A),
   (0x2028, 0x2029), (0x202F, 0x202F), (0x205F, 0x205F), (0x3000, 0x3000)]

/-- Whether a character is blank. -/
def isBlank (c : Char) : Bool := blanks.contains c

/-- The characters between the blanks at both ends. -/
def trimChars (text : List Char) : List Char :=
  ((text.dropWhile isBlank).reverse.dropWhile isBlank).reverse

/-- The text between the blanks at both ends. -/
def trim (text : String) : String := String.ofList (trimChars text.toList)

end BatchStringify.Text
