import BatchStringify.Logging.Dialect
import BatchStringify.Logging.Directive
import BatchStringify.Logging.Notice
import BatchStringify.Table

/-!
# Filters

A filter is a list of directives, at most one for each subject: the last one counts, and subjects
that differ only in the sign of a zero are the same. An event passes if the directive with the
narrowest subject among those that speak about it enables its level. A subject with a longer target
is narrower than one with a shorter target or none, and between equal targets one with a field is
narrower than one without. Without any such directive the event does not pass. The library opens no
spans, so a directive for the inside of a span lets nothing pass.

`Filter.dialect` is the dialect that these filters are read in.
-/

namespace BatchStringify.Logging

/-- A set of directives, at most one for each subject up to the sign of a zero. -/
abbrev Filter := Table Subject Directive

/-- Whether an event has a field of a name. -/
def Event.hasField (event : Event) (name : String) : Bool :=
  name = "message" || event.fields.any (·.1 = name)

/-- Whether an event outside all spans belongs to a subject. -/
def Subject.includes (s : Subject) (event : Event) : Bool :=
  s.isPlain && s.target.all (·.toList.isPrefixOf event.target.toList) &&
    s.field.all (event.hasField ·.name)

/-- How narrow a subject is: more with a longer target, then with a field. -/
def Subject.narrowness (s : Subject) : Nat :=
  2 * s.target.elim 0 (·.toList.length + 1) + (if s.field.isSome then 1 else 0)

/-- The name of the field of a subject. -/
def Subject.fieldName (s : Subject) : String := s.field.elim "" (·.name)

/-- Whether a subject is narrower than another one; between equally narrow ones the names of their
fields decide. -/
def Subject.isNarrower (s t : Subject) : Bool :=
  decide (t.narrowness < s.narrowness) ||
    (s.narrowness = t.narrowness && decide (t.fieldName < s.fieldName))

/-- The directive with the narrowest subject. -/
def narrowest : List Directive → Option Directive
  | [] => none
  | d :: rest =>
    match narrowest rest with
    | none => some d
    | some e => if e.subject.isNarrower d.subject then some e else some d

namespace Filter

/-- Adds a directive in place of the one with the same subject. -/
def add (filter : Filter) (d : Directive) : Filter := filter.put d.subject.comparable d

/-- The filter of directives. -/
def ofDirectives (ds : List Directive) : Filter := ds.foldl add .empty

/-- The filter of a text, if all of its pieces read. -/
def read? (text : String) : Option Filter :=
  ((directiveTexts text).mapM Directive.read?).map ofDirectives

/-- The filter of those pieces of a text that read; without any it lets errors pass. -/
def salvage (text : String) : Filter :=
  match (directiveTexts text).filterMap Directive.read? with
  | [] => ofDirectives [⟨.everything, .error⟩]
  | ds => ofDirectives ds

/-- The directives of a filter. -/
def directives (filter : Filter) : List Directive := filter.entries.map (·.2)

/-- The directive that decides about an event. -/
def deciding (filter : Filter) (event : Event) : Option Directive :=
  narrowest (filter.directives.filter (·.subject.includes event))

/-- Whether an event passes. -/
def passes (filter : Filter) (event : Event) : Bool :=
  (filter.deciding event).any (·.level.enables event.level)

/-- The texts of the directives in order. A directive is kept for events, for spans, or for both,
and is listed once for each. -/
def texts (filter : Filter) : List String :=
  let forEvents := filter.directives.filter (·.subject.isPlain)
  let forSpans := filter.directives.filter (·.subject.isContextual)
  ((forEvents ++ forSpans).map Directive.text).mergeSort fun a b => decide (a ≤ b)

end Filter

/-- The dialect of these filters. -/
def Filter.dialect : Dialect Filter Directive Subject where
  read? := Filter.read?
  salvage := Filter.salvage
  directive? := Directive.read?
  subject d := d.subject.comparable
  Holds filter d := d ∈ filter.directives

/-- The filter that logging settings and the environment give in this dialect. -/
def LoggingSettings.filter (settings : LoggingSettings) (environment : Option String) : Filter :=
  Filter.dialect.filter settings environment

end BatchStringify.Logging
