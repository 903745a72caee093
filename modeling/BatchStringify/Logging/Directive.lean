import BatchStringify.Decimal.Layout
import BatchStringify.Logging.Level
import BatchStringify.Pattern.Usable
import BatchStringify.Text.Alphanumeric
import BatchStringify.Text.Blank
import BatchStringify.Text.Octets

/-!
# Directives

A directive gives a level to a subject: the events whose target starts with a text, perhaps only
inside a span of some name, or only those with some field. It is written as a level alone, or as

    target[span{field}]=level

where the target, the span, the field and the level can each be missing; with no level it is
`trace`. A field is a name, or a name and a content with an equals sign between them.

The marks between the parts are looked for in the text without the blanks around it. The parts are
then cut, at the octets so found, from the text with its blanks, which is why blanks in front shift
every part.
-/

namespace BatchStringify.Logging

/-- What the content of a field must be. -/
inductive ContentTest where
  | flag (b : Bool)
  | natural (n : Nat)
  | integer (n : Int)
  /-- A floating-point number of 64 bits, as its bits. -/
  | real (bits : Nat)
  /-- Text that a regular expression matches. -/
  | pattern (text : String)
  deriving DecidableEq, Repr

/-- A field of an event, and perhaps what its content must be. -/
structure FieldTest where
  name : String
  content : Option ContentTest
  deriving DecidableEq, Repr

/-- What a directive speaks about. -/
structure Subject where
  /-- The text that the targets start with; without it, all targets. -/
  target : Option String
  /-- The name of the span around the events. -/
  span : Option String := none
  /-- The field that the events have. -/
  field : Option FieldTest := none
  deriving DecidableEq, Repr

/-- A level for a subject. -/
structure Directive where
  subject : Subject
  level : Level
  deriving DecidableEq, Repr

namespace ContentTest

/-- The test as it is written. -/
def text : ContentTest → String
  | .flag b => if b then "true" else "false"
  | .natural n => toString n
  | .integer n => toString n
  | .real bits => Decimal.Layout.plain.ofBits Binary.double bits
  | .pattern text => text

/-- The test that a text asks for: the first that fits of a truth value, a whole number of 64 bits
without and with a sign, a floating-point number and a pattern. -/
def ofText? (text : List Char) : Option ContentTest :=
  let flag := if text = "true".toList then some true
    else if text = "false".toList then some false else none
  let natural := (Decimal.unsigned? text).filter (· < UInt64.size)
  let integer := (Decimal.signed? text).filter fun n =>
    Int64.minValue.toInt ≤ n && n ≤ Int64.maxValue.toInt
  let pattern := if Pattern.accepts text then some (String.ofList text) else none
  flag.map .flag <|> natural.map .natural <|> integer.map .integer <|>
    (Decimal.real? text).map .real <|> pattern.map .pattern

/-- The test without the sign of a zero, which does not count when floating-point numbers are
compared. -/
def comparable : ContentTest → ContentTest
  | .real bits => .real (if bits = Decimal.negativeZeroBits then 0 else bits)
  | test => test

end ContentTest

namespace FieldTest

/-- The test as it is written. -/
def text (f : FieldTest) : String :=
  match f.content with
  | none => f.name
  | some content => f.name ++ "=" ++ content.text

/-- The test that a text asks for. What follows a second equals sign does not count. -/
def ofText? (text : List Char) : Option FieldTest :=
  match text.dropWhile (· ≠ '=') with
  | [] => some ⟨String.ofList text, none⟩
  | _ :: content =>
    (ContentTest.ofText? (content.takeWhile (· ≠ '='))).map fun content =>
      ⟨String.ofList (text.takeWhile (· ≠ '=')), some content⟩

end FieldTest

namespace Subject

/-- The subject of a directive that is a level alone. -/
def everything : Subject := ⟨none, none, none⟩

/-- The subject as it is written. -/
def text (s : Subject) : String :=
  let field := match s.field with
    | none => ""
    | some field => "\x7b" ++ field.text ++ "\x7d"
  s.target.getD "" ++
    (if s.span.isSome || s.field.isSome then "[" ++ s.span.getD "" ++ field ++ "]" else "")

/-- The subject with numbers made comparable. -/
def comparable (s : Subject) : Subject :=
  { s with field := s.field.map fun f => { f with content := f.content.map (·.comparable) } }

/-- Whether a subject depends on what surrounds an event or on its fields. -/
def isContextual (s : Subject) : Bool := s.span.isSome || s.field.isSome

/-- Whether an event alone, without a span around it, shows that it belongs to the subject. -/
def isPlain (s : Subject) : Bool := s.span.isNone && !s.field.any (·.content.isSome)

end Subject

namespace Directive

/-- The text of a directive. -/
def text (d : Directive) : String :=
  if d.subject = .everything then d.level.name else d.subject.text ++ "=" ++ d.level.name

end Directive

/-- Where the parts of a directive lie, in octets. -/
structure Outline where
  /-- The end of the target, which starts in front. -/
  target : Option Nat := none
  /-- The start and the end of the name of a span. -/
  span : Option (Nat × Nat) := none
  /-- The start and the end of a field. -/
  field : Option (Nat × Nat) := none
  /-- The start of the level, which goes to the end. -/
  level : Option Nat := none

namespace Outline

/-- Adds the level, if one follows. -/
def withLevel? (outline : Outline) (place : Nat) : List Char → Option Outline
  | [] => some outline
  | c :: _ => if c = '=' then some { outline with level := some (place + 1) } else none

/-- Adds the span and the field up to the closing bracket, and the level behind it. A span needs no
name and a field does; where there is a field, a span without name is none. -/
def withSpan? (outline : Outline) (place : Nat) (text : List Char) : Option Outline :=
  let name := text.takeWhile fun c => c ≠ ']' && c ≠ '\x7b'
  let stop := place + Text.octets name
  match text.dropWhile fun c => c ≠ ']' && c ≠ '\x7b' with
  | ']' :: rest => { outline with span := some (place, stop) }.withLevel? (stop + 1) rest
  | '\x7b' :: rest =>
    let field := rest.takeWhile (· ≠ '\x7d')
    let fieldStop := stop + 1 + Text.octets field
    match rest.dropWhile (· ≠ '\x7d') with
    | '\x7d' :: ']' :: rest =>
      if field.isEmpty then none
      else
        let span := if name.isEmpty then none else some (place, stop)
        let outline := { outline with span := span, field := some (stop + 1, fieldStop) }
        outline.withLevel? (fieldStop + 2) rest
    | _ => none
  | _ => none

/-- The directive with the parts cut from a text. A level that is missing or empty is `trace`. A cut inside a
character gives no directive. -/
def cut? (outline : Outline) (text : List Char) : Option Directive := do
  let target ← outline.target.mapM fun stop => Text.between? text 0 stop
  let span ← outline.span.mapM fun (start, stop) => Text.between? text start stop
  let field ← outline.field.mapM fun (start, stop) =>
    (Text.between? text start stop).bind FieldTest.ofText?
  let level ← match outline.level with
    | none => some .trace
    | some start =>
      match Text.cutAt? start text with
      | none => none
      | some (_, []) => some .trace
      | some (_, level) => Level.read? level
  return ⟨⟨target.map String.ofList, span.map String.ofList, field⟩, level⟩

end Outline

namespace Directive

/-- Whether a directive can start with a character other than a bracket. -/
def canStart (c : Char) : Bool :=
  c = '-' || c = ':' || c = '_' || Text.isAlphanumeric c

/-- The directive of a text without marks: a level for everything if the text is one, else the
level `trace` for the text as a target. -/
def ofUnmarked (text : List Char) : Directive :=
  match Level.read? text with
  | some level => ⟨.everything, level⟩
  | none => ⟨⟨some (String.ofList text), none, none⟩, .trace⟩

/-- Reads a directive. -/
def read? (text : List Char) : Option Directive :=
  let trimmed := Text.trimChars text
  let target := trimmed.takeWhile fun c => c ≠ '=' && c ≠ '['
  let place := Text.octets target
  match target, trimmed.dropWhile fun c => c ≠ '=' && c ≠ '[' with
  | [], '[' :: rest => (Outline.withSpan? {} 1 rest).bind (·.cut? text)
  | [], _ => none
  | c :: _, rest =>
    if !canStart c then none
    else
      match rest with
      | [] => some (ofUnmarked text)
      | '[' :: rest =>
        (Outline.withSpan? { target := some place } (place + 1) rest).bind (·.cut? text)
      | rest => (Outline.withLevel? { target := some place } place rest).bind (·.cut? text)

end Directive

end BatchStringify.Logging
