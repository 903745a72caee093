import BatchStringify.Text.Unprintable

/-!
# Quoted text

Text between double quotes for a message: a quote and a backslash get a backslash in front, four
control characters have a short escape, and every other unprintable character is written by its
code point.
-/

namespace BatchStringify.Text

/-- A code point in lower-case hexadecimal between braces. -/
def codePointEscape (c : Char) : String :=
  "\\u\x7b" ++ String.ofList (Nat.toDigits 16 c.toNat) ++ "\x7d"

/-- One character of a quoted text. -/
def escape (c : Char) : String :=
  if c = '\x00' then "\\0"
  else if c = '\t' then "\\t"
  else if c = '\r' then "\\r"
  else if c = '\n' then "\\n"
  else if c = '\\' then "\\\\"
  else if c = '\"' then "\\\""
  else if isUnprintable c then codePointEscape c
  else c.toString

/-- A text between double quotes. -/
def quote (text : String) : String :=
  "\"" ++ text.toList.foldl (fun written c => written ++ escape c) "" ++ "\""

end BatchStringify.Text
