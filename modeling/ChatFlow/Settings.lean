import ChatFlow.Outside
import ChatFlow.Decimal.Numeral
import ChatFlow.Behavior.Registry

/-!
The settings of the service, read from named texts.

Every setting has a default. Some are integers or numbers and are read as such when the service starts;
one that cannot be read stops it. Asking for a setting that does not exist is logged and fails.
-/

namespace ChatFlow

/-- The sort of a setting. -/
inductive SettingSort where
  | text
  | integer
  | number
deriving Repr, DecidableEq

/-- A setting: its name, its sort, and the text that stands for it if it is not set. -/
structure Setting where
  name : String
  sort : SettingSort
  default : String
deriving Repr

namespace Setting

/-- All settings, in the order in which they are read. -/
def all : List Setting :=
  [⟨"APP_ENV", .text, "production"⟩,
    ⟨"HOST", .text, "0.0.0.0"⟩,
    ⟨"PORT", .integer, "8018"⟩,
    ⟨"ORG_ID", .text, "flow-interpreter"⟩,
    ⟨"LOKI_URL", .text, ""⟩,
    ⟨"MONGO_USERNAME", .text, ""⟩,
    ⟨"MONGO_PASSWORD", .text, ""⟩,
    ⟨"MONGO_AUTH_SOURCE", .text, "admin"⟩,
    ⟨"MONGO_HOST", .text, "localhost"⟩,
    ⟨"MONGO_PORT", .integer, "27017"⟩,
    ⟨"MONGO_DB_NAME", .text, "flow_db"⟩,
    ⟨"OPENAI_API_KEY", .text, ""⟩,
    ⟨"OPENAI_MODEL", .text, "gpt-4o"⟩,
    ⟨"SESSION_TTL_HOURS", .integer, "24"⟩,
    ⟨"MAX_HOPS", .integer, "50"⟩,
    ⟨"API_CALL_TIMEOUT_SECONDS", .number, "15"⟩,
    ⟨"WEBHOOK_TIMEOUT_SECONDS", .number, "10"⟩,
    ⟨"LEAD_SERVICE_URL", .text, ""⟩,
    ⟨"DEBUG", .text, "false"⟩]

/-- Reads the text of a setting by its sort. -/
def read? (s : Setting) (given : String) : Except Failure Value :=
  match s.sort with
  | .text => .ok (.text given)
  | .integer =>
    match Decimal.readInteger given with
    | .ok n => .ok (.int n)
    | .error .malformed => .error (.badInteger given)
    | .error (.tooLong digits) => .error (.numeralTooLong digits)
  | .number =>
    match Decimal.readNumber? given with
    | some x => .ok (.float x)
    | none => .error (.badNumber given)

end Setting

namespace Settings

/-- The component name of the settings in the log. -/
def component : String := "EnvironmentUtils"

/-- The texts that were given, by name. -/
abbrev Given := List (String × String)

/-- The text given under a name, or the default. -/
def textOf (given : Given) (name default : String) : String :=
  (given.lookup name).getD default

/-- Reads all settings; the first that cannot be read is the failure. -/
def readAll? (given : Given) : List Setting → Except Failure Entries
  | [] => .ok []
  | s :: rest =>
    match s.read? (textOf given s.name s.default) with
    | .error f => .error f
    | .ok v => (readAll? given rest).map ((s.name, v) :: ·)

/-- Reads the settings of the service. -/
def read? (given : Given) : Except Failure Entries :=
  readAll? given Setting.all

/-- The value of a setting; a name without one is logged. -/
def get (settings : Entries) (name : String) : Service Value := do
  match settings.lookup name with
  | some v => return v
  | none =>
    Service.reportError component
    throw (.unknownSetting name)

end Settings

end ChatFlow
