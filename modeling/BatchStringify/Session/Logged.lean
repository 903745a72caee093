import BatchStringify.Logging.Subscriber
import BatchStringify.Session.Top

/-!
# Sessions with a log

A session in a fresh process together with the log of the process. Logging may have been set up
before the session sets it up with its own settings; the first set-up counts.
-/

namespace BatchStringify

/-- How a process came to its logging. -/
structure LogSetup where
  /-- Filter directives from the environment. -/
  environment : Option String
  /-- Whether a foreign subscriber was installed at the start. -/
  foreign : Bool
  /-- The settings that logging was set up with before the session, in order. -/
  earlier : List LoggingSettings
  /-- The session's own settings. -/
  own : LoggingSettings

namespace LogSetup

/-- The logging of the process before the session. -/
def before (setup : LogSetup) : Logging.Installation :=
  setup.earlier.foldl (fun process settings => process.install settings setup.environment)
    (if setup.foreign then .foreign [] else .silent)

/-- The logging of the process during the session. -/
def during (setup : LogSetup) : Logging.Installation :=
  setup.before.install setup.own setup.environment

/-- What is written for the notices in the reports of a session. -/
def written (setup : LogSetup) (reports : List Session.StepReport) : List Logging.LogLine :=
  (reports.flatMap fun report => report.journal.filterMap Entry.notice?).flatMap fun notice =>
    setup.during.write notice.event

end LogSetup

end BatchStringify
