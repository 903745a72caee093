import BatchStringify.Logging.Filter

/-!
# Subscribers

The subscriber of a process takes every event and writes those that its filter lets pass, as lines
of text or as objects, or writes nothing at all. A process has at most one: the first that is
installed stays, and later settings change nothing.
-/

namespace BatchStringify.Logging

/-- The text of a field's content. -/
def FieldValue.plain : FieldValue → String
  | .number n => toString n
  | .flag b => if b then "true" else "false"
  | .text s => s

/-- The name of a level in front of an event. -/
def Level.label (level : Level) : String := level.name.map Char.toUpper

/-- An event as text: level, target, message and fields. -/
def Event.text (event : Event) : String :=
  event.level.label ++ " " ++ event.target ++ ": " ++ event.message ++
    event.fields.foldl (fun text (key, content) => text ++ " " ++ key ++ "=" ++ content.plain) ""

/-- One line of the log as it is written. -/
inductive LogLine where
  | text (content : String)
  | object (event : Event)

/-- What takes the events of a process. -/
structure Subscriber where
  filter : Filter
  json : Bool
  /-- Whether anything is written. -/
  writes : Bool

namespace Subscriber

/-- The subscriber that logging settings and the environment give. -/
def ofSettings (settings : LoggingSettings) (environment : Option String) : Subscriber :=
  ⟨LoggingSettings.filter settings environment, settings.json, settings.stderr⟩

/-- What is written for an event. -/
def write (subscriber : Subscriber) (event : Event) : List LogLine :=
  if subscriber.writes && subscriber.filter.passes event then
    if subscriber.json then [.object event]
    else (event.text.splitOn "\n").map .text
  else []

end Subscriber

/-- The logging of a process. -/
inductive Installation where
  /-- Nothing is installed. -/
  | silent
  /-- Another subscriber was there first, and it collects events. -/
  | foreign (collected : List Event)
  /-- Another subscriber was there first, and nothing is installed any more. -/
  | settled (collected : List Event)
  | installed (subscriber : Subscriber)

namespace Installation

/-- Installs a subscriber, unless this was tried before. The first try notes if another subscriber
is in its place. -/
def install (settings : LoggingSettings) (environment : Option String) : Installation → Installation
  | .silent => .installed (.ofSettings settings environment)
  | .foreign collected => .settled (collected ++ [Notice.alreadyInstalled.event])
  | .settled collected => .settled collected
  | .installed subscriber => .installed subscriber

/-- The events that another subscriber collected. -/
def collected : Installation → List Event
  | .foreign events | .settled events => events
  | _ => []

/-- What is written for an event. -/
def write : Installation → Event → List LogLine
  | .installed subscriber, event => subscriber.write event
  | _, _ => []

end Installation

end BatchStringify.Logging
