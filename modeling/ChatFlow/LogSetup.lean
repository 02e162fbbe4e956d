import ChatFlow.Settings
import ChatFlow.Text.Lowercase

/-!
Setting up the log.

The log always goes to the console, and to a collector as well if its address is given; the collector
gets labels that name the service and where it runs, and refuses records with an empty label. Records
below the level of the log are dropped.
-/

namespace ChatFlow

/-- The level of a log record. -/
inductive LogLevel where
  | debug
  | info
  | warning
  | error
deriving Repr, DecidableEq

namespace LogLevel

/-- The number by which levels are compared. -/
def number : LogLevel → Nat
  | debug => 10
  | info => 20
  | warning => 30
  | error => 40

/-- The name of a level in records. -/
def name : LogLevel → String
  | debug => "DEBUG"
  | info => "INFO"
  | warning => "WARNING"
  | error => "ERROR"

/-- The level of a word. -/
def ofWord? (w : String) : Option LogLevel :=
  if w == "debug" then some debug
  else if w == "info" then some info
  else if w == "warning" then some warning
  else if w == "error" then some error
  else none

end LogLevel

/-- Where log records go. -/
inductive LogSink where
  /-- A collector, with the labels of this service. -/
  | collector (labels : Entries)
  | console
deriving Repr

/-- A record of the log. -/
structure LogRecord where
  level : LogLevel
  service : String
  message : String
deriving Repr

/-- A log. -/
structure LogSetup where
  level : LogLevel
  sinks : List LogSink
deriving Repr

namespace LogSetup

/-- The labels under which a collector files the records of a logger. -/
def labels (given : Settings.Given) (logger : String) : Entries :=
  [("application", .text logger),
    ("environment", .text (Settings.textOf given "APP_ENV" "production")),
    ("org_id", .text (Settings.textOf given "ORG_ID" "flow-interpreter"))]

/-- The log of a logger, for the settings given. -/
def ofGiven (given : Settings.Given) (logger : String) : LogSetup where
  level := if Text.lower (Settings.textOf given "DEBUG" "false") == "true" then .debug else .info
  sinks :=
    if (Settings.textOf given "LOKI_URL" "").isEmpty then [.console]
    else [.collector (labels given logger), .console]

/-- The record is written. -/
def writes (s : LogSetup) (r : LogRecord) : Bool :=
  s.level.number ≤ r.level.number

/-- A collector takes a record with these labels: none of them is null or the empty text. -/
def passes (labels : Entries) : Bool :=
  labels.all fun (_, v) =>
    match v with
    | .null => false
    | .text s => !s.isEmpty
    | _ => true

end LogSetup

end ChatFlow
